import Mathlib.Data.List.Basic
import ListingFilter.Json
/-!
# Entries by name

What is found in a list of entries is one of them; the first of two lists goes before the second. An
assignment adds at most the name assigned, and an entry of the result is an old one or the one
assigned. After several assignments under different names, a name that was assigned has its new
value and any other name its old one.
-/

namespace ListingFilter

variable {α : Type} {entries updates : List (String × α)} {key name : String} {value : α}

theorem mem_of_lookup? (h : lookup? entries key = some value) : (key, value) ∈ entries := by
  obtain ⟨entry, hentry, rfl⟩ := Option.map_eq_some_iff.1 h
  have hkey : entry.1 = key := by simpa using List.find?_some hentry
  rw [← hkey]
  exact List.mem_of_find?_eq_some hentry

theorem mem_assign {entry : String × α} (h : entry ∈ assign entries key value) :
    entry ∈ entries ∨ entry = (key, value) := by
  induction entries with
  | nil => exact .inr (List.mem_singleton.1 h)
  | cons first rest ih =>
    simp only [assign] at h
    split_ifs at h
    · rcases List.mem_cons.1 h with h | h
      · exact .inr h
      · exact .inl (List.mem_cons_of_mem first h)
    · rcases List.mem_cons.1 h with rfl | h
      · exact .inl List.mem_cons_self
      · exact (ih h).imp_left (List.mem_cons_of_mem first)

theorem mem_assignAll {entry : String × α} (h : entry ∈ assignAll entries updates) :
    entry ∈ entries ∨ entry ∈ updates := by
  induction updates generalizing entries with
  | nil => exact .inl h
  | cons update updates ih =>
    rcases ih h with h | h
    · rcases mem_assign h with h | rfl
      · exact .inl h
      · exact .inr List.mem_cons_self
    · exact .inr (List.mem_cons_of_mem update h)

/-- The names of the entries. -/
def keys (entries : List (String × α)) : List String := entries.map (·.1)

theorem mem_keys_assign :
    name ∈ keys (assign entries key value) ↔ name = key ∨ name ∈ keys entries := by
  induction entries with
  | nil => simp [assign, keys]
  | cons first rest ih =>
    by_cases hkey : first.1 = key
    · simp [assign, keys, hkey]
    · simp only [assign, beq_iff_eq, hkey, if_false, keys, List.map_cons, List.mem_cons] at ih ⊢
      rw [ih]
      exact or_left_comm

theorem mem_keys_assignAll :
    name ∈ keys (assignAll entries updates) ↔ name ∈ keys entries ∨ name ∈ keys updates := by
  induction updates generalizing entries with
  | nil => simp [assignAll, keys]
  | cons update updates ih =>
    have hstep : assignAll entries (update :: updates) =
        assignAll (assign entries update.1 update.2) updates := rfl
    rw [hstep, ih, mem_keys_assign, keys, keys, keys, List.map_cons, List.mem_cons, or_assoc]
    exact or_left_comm

theorem lookup?_eq_none_iff : lookup? entries name = none ↔ name ∉ keys entries := by
  rw [lookup?, Option.map_eq_none_iff, List.find?_eq_none, keys, List.mem_map]
  simp only [beq_iff_eq, not_exists, not_and]

theorem lookup?_cons (first : String × α) (rest : List (String × α)) :
    lookup? (first :: rest) name = if first.1 = name then some first.2 else lookup? rest name := by
  by_cases hname : first.1 = name <;> simp [lookup?, hname]

theorem lookup?_append (entries later : List (String × α)) (name : String) :
    lookup? (entries ++ later) name = (lookup? entries name).or (lookup? later name) := by
  rw [lookup?, List.find?_append, Option.map_or]
  rfl

theorem lookup?_assign :
    lookup? (assign entries key value) name = if key = name then some value else
      lookup? entries name := by
  induction entries with
  | nil => exact lookup?_cons (key, value) []
  | cons first rest ih =>
    by_cases hkey : first.1 = key
    · simp only [assign, beq_iff_eq, hkey, if_true, lookup?_cons]
      split_ifs <;> rfl
    · simp only [assign, beq_iff_eq, hkey, if_false, lookup?_cons, ih]
      split_ifs with hfirst hname
      · exact absurd (hfirst.trans hname.symm) hkey
      · rfl
      · rfl
      · rfl

theorem lookup?_assignAll (h : (keys updates).Nodup) :
    lookup? (assignAll entries updates) name =
      (lookup? updates name).or (lookup? entries name) := by
  induction updates generalizing entries with
  | nil => rfl
  | cons update updates ih =>
    obtain ⟨hnew, hrest⟩ := List.nodup_cons.1 h
    have hstep : assignAll entries (update :: updates) =
        assignAll (assign entries update.1 update.2) updates := rfl
    rw [hstep, ih hrest, lookup?_assign, lookup?_cons]
    by_cases hname : update.1 = name
    · rw [if_pos hname, if_pos hname, lookup?_eq_none_iff.2 (hname ▸ hnew)]
      rfl
    · rw [if_neg hname, if_neg hname]

end ListingFilter
