import Mathlib.Data.Finset.Insert
import Mathlib.Data.Fintype.Defs
import ListingFilter.Proofs.NumberedBindings
import ListingFilter.Proofs.Parentheses
/-!
# Rows of tokens

A condition is a row of tokens: fixed texts, declared expressions, and operands. A position in it is
the number of parentheses that are open and the kind of token that stands before. Each token leads
to the next position or nowhere, whatever expression or operand it holds, so a row is checked once
for all of them. Whoever looks at the text of a row, for its parentheses or for its parameters,
needs to know what a single token does.
-/

namespace ListingFilter

namespace Sql

/-! ### Tokens -/

/-- A piece of a condition: a text of the compiler, a declared expression or the name of a table, or
an operand. -/
inductive Token
  | fixed (text : String)
  | declared (expr : String)
  | value (operand : Operand)
  deriving DecidableEq

namespace Token

@[simp] def written : Token → String
  | fixed text => text
  | declared expr => expr
  | value operand => operand.text

@[simp] def numbers : Token → Set ℕ
  | fixed _ => ∅
  | declared _ => ∅
  | value operand => operand.numbers

/-- A declared expression satisfies `Atom`, and a number is plain. -/
@[simp] def IsSound (Atom : String → Prop) : Token → Prop
  | fixed _ => True
  | declared expr => Atom expr
  | value operand => operand.IsPlain

/-- The token without its expression or operand. -/
@[simp] def erase : Token → Token
  | fixed text => fixed text
  | declared _ => declared ""
  | value _ => value (.param 0)

end Token

@[simp] def writtenTokens : List Token → String
  | [] => ""
  | token :: tokens => token.written ++ writtenTokens tokens

@[simp] def tokenNumbers : List Token → Set ℕ
  | [] => ∅
  | token :: tokens => token.numbers ∪ tokenNumbers tokens

theorem writtenTokens_append (front back : List Token) :
    writtenTokens (front ++ back) = writtenTokens front ++ writtenTokens back := by
  induction front with
  | nil => simp [writtenTokens]
  | cons token front ih => simp [writtenTokens, ih, String.append_assoc]

theorem tokenNumbers_append (front back : List Token) :
    tokenNumbers (front ++ back) = tokenNumbers front ∪ tokenNumbers back := by
  induction front with
  | nil => simp [tokenNumbers]
  | cons token front ih => simp [tokenNumbers, ih, Set.union_assoc]

/-! ### Positions -/

/-- What stands before a position. -/
inductive Edge
  | blank
  | operand
  | other
  deriving DecidableEq

instance : Fintype Edge where
  elems := {.blank, .operand, .other}
  complete edge := by cases edge <;> decide

/-- A position in a condition: the number of open parentheses, and what stands before it. -/
structure Position where
  depth : Nat
  edge : Edge
  deriving DecidableEq

/-- The position after a token. An operand stands after a blank and before a blank or a closing
parenthesis; the text of the compiler holds no colons. -/
def Position.after (position : Position) : Token → Option Position
  | .fixed text =>
    let cs := text.toList
    if ':' ∈ cs then none
    else if position.edge = .operand ∧ cs.head? ≠ some ' ' ∧ cs.head? ≠ some ')' then none
    else (depthAfter position.depth cs).map fun depth =>
      ⟨depth, if cs.getLast? = some ' ' then .blank else .other⟩
  | .declared _ => if position.edge = .operand then none else some ⟨position.depth, .other⟩
  | .value _ => if position.edge = .blank then some ⟨position.depth, .operand⟩ else none

section After

variable {position next : Position}

theorem Position.after_fixed {text : String} (h : position.after (.fixed text) = some next) :
    ':' ∉ text.toList ∧ depthAfter position.depth text.toList = some next.depth ∧
      (position.edge = .operand →
        text.toList.head? = some ' ' ∨ text.toList.head? = some ')') ∧
      (next.edge = .blank → text.toList.getLast? = some ' ') := by
  simp only [Position.after] at h
  by_cases hcolon : ':' ∈ text.toList
  · simp [hcolon] at h
  by_cases hhead : position.edge = .operand ∧ text.toList.head? ≠ some ' ' ∧
      text.toList.head? ≠ some ')'
  · simp [hhead] at h
  rw [if_neg hcolon, if_neg hhead] at h
  obtain ⟨depth, hdepth, rfl⟩ := Option.map_eq_some_iff.1 h
  refine ⟨hcolon, hdepth, fun hoperand => ?_, fun hblank => ?_⟩
  · by_contra hne
    exact hhead ⟨hoperand, not_or.1 hne⟩
  · by_contra hlast
    simp [hlast] at hblank

theorem Position.after_declared {expr : String} (h : position.after (.declared expr) = some next) :
    position.edge ≠ .operand ∧ next = ⟨position.depth, .other⟩ := by
  simp only [Position.after] at h
  split_ifs at h with hoperand
  exact ⟨hoperand, (Option.some.inj h).symm⟩

theorem Position.after_value {operand : Operand} (h : position.after (.value operand) = some next) :
    position.edge = .blank ∧ next = ⟨position.depth, .operand⟩ := by
  simp only [Position.after] at h
  split_ifs at h with hblank
  exact ⟨hblank, (Option.some.inj h).symm⟩

end After

theorem Position.after_erase (position : Position) (token : Token) :
    position.after token.erase = position.after token := by
  cases token <;> rfl

/-- The text consists of tokens that lead from one position to another and refer to the parameters
with the numbers. -/
structure IsWritten (Atom : String → Prop) (start stop : Position) (numbers : Set ℕ)
    (text : String) : Prop where
  tokens : ∃ tokens : List Token, writtenTokens tokens = text ∧
    tokens.foldlM Position.after start = some stop ∧ (∀ token ∈ tokens, token.IsSound Atom) ∧
      tokenNumbers tokens = numbers

namespace IsWritten

variable {Atom : String → Prop} {start middle stop : Position} {numbers others : Set ℕ}
  {front back : String}

theorem append (hfront : IsWritten Atom start middle numbers front)
    (hback : IsWritten Atom middle stop others back) :
    IsWritten Atom start stop (numbers ∪ others) (front ++ back) := by
  obtain ⟨tokens, rfl, hscan, hsound, rfl⟩ := hfront
  obtain ⟨tokens', rfl, hscan', hsound', rfl⟩ := hback
  refine ⟨tokens ++ tokens', writtenTokens_append _ _, ?_, ?_, tokenNumbers_append _ _⟩
  · rw [List.foldlM_append, hscan]
    exact hscan'
  · exact List.forall_mem_append.2 ⟨hsound, hsound'⟩

/-- Where a row of tokens leads does not depend on its expressions and operands. -/
theorem of_tokens {text : String} (tokens : List Token) (htext : text = writtenTokens tokens)
    (hnumbers : numbers = tokenNumbers tokens) (hsound : ∀ token ∈ tokens, token.IsSound Atom)
    (hscan : (tokens.map Token.erase).foldlM Position.after start = some stop) :
    IsWritten Atom start stop numbers text := by
  refine ⟨tokens, htext.symm, ?_, hsound, hnumbers.symm⟩
  rw [List.foldlM_map] at hscan
  simpa only [Position.after_erase] using hscan

theorem fixed {text : String} (h : start.after (.fixed text) = some stop) :
    IsWritten Atom start stop ∅ text := by
  refine of_tokens [.fixed text] (by simp) (by simp) (by simp) ?_
  simp [h]

end IsWritten

/-- The text is a complete condition. -/
def IsCondition (Atom : String → Prop) (numbers : Set ℕ) (text : String) : Prop :=
  ∀ edge ≠ Edge.operand, IsWritten Atom ⟨0, edge⟩ ⟨0, .other⟩ numbers text

variable {Atom : String → Prop}

/-- A row of tokens that begins with a text of the compiler does not depend on what stands before
it. -/
theorem isCondition_of_tokens {numbers : Set ℕ} {text : String} (front : String)
    (tokens : List Token) (htext : text = writtenTokens (.fixed front :: tokens))
    (hnumbers : numbers = tokenNumbers tokens)
    (hsound : ∀ token ∈ tokens, token.IsSound Atom)
    (hscan : ((.fixed front :: tokens).map Token.erase).foldlM Position.after ⟨0, .other⟩ =
      some ⟨0, .other⟩) : IsCondition Atom numbers text := by
  intro edge hedge
  have hstart : ((.fixed front :: tokens).map Token.erase).foldlM Position.after ⟨0, edge⟩ =
      some ⟨0, .other⟩ := by
    rw [← hscan]
    simp [List.foldlM_cons, Position.after, hedge, Token.erase]
  exact IsWritten.of_tokens (.fixed front :: tokens) htext (by simp [hnumbers])
    (List.forall_mem_cons.2 ⟨trivial, hsound⟩) hstart

end Sql

/-- The condition, if there is one, is complete; without one no parameter is bound. -/
def IsConditionIfAny (Atom : String → Prop) (numbers : Set ℕ) : Option String → Prop
  | none => numbers = ∅
  | some text => Sql.IsCondition Atom numbers text

end ListingFilter
