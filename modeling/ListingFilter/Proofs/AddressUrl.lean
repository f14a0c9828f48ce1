import Mathlib.Data.List.TakeWhile
import ListingFilter.Database.Address
import ListingFilter.Database.Url
import ListingFilter.Proofs.PercentEncoding
/-!
# Taking the URL of the database apart

The URL that is put together from a user, a password, a host, a port and a name is cut into these
parts again. The password is form-encoded and read as a percent-encoded text, so that it comes back
as it was given if it has no space, and with plus signs for its spaces otherwise.
-/

namespace ListingFilter.Database

namespace Url

variable {c d : Char} {cs rest : List Char} {stops : Char → Bool}

theorem cutFirst?_append (rest : List Char) (h : c ∉ cs) :
    cutFirst? c (cs ++ c :: rest) = some (cs, rest) := by
  have hcs : ∀ d ∈ cs, (d != c) = true := fun d hd => bne_iff_ne.2 (ne_of_mem_of_not_mem hd h)
  rw [cutFirst?, List.dropWhile_append_of_pos hcs, List.takeWhile_append_of_pos hcs]
  simp

theorem spanUntil_append (rest : List Char) (hcs : ∀ c ∈ cs, stops c = false)
    (hd : stops d = true) : spanUntil stops (cs ++ d :: rest) = (cs, d :: rest) := by
  have hgoes : ∀ c ∈ cs, (!stops c) = true := fun c hc => by rw [hcs c hc]; rfl
  rw [spanUntil, List.dropWhile_append_of_pos hgoes, List.takeWhile_append_of_pos hgoes]
  simp [hd]

theorem spanUntil_of_forall (hcs : ∀ c ∈ cs, stops c = false) : spanUntil stops cs = (cs, []) := by
  have hgoes : ∀ c ∈ cs, (!stops c) = true := fun c hc => by rw [hcs c hc]; rfl
  rw [spanUntil, List.takeWhile_eq_self_iff.2 hgoes, List.dropWhile_eq_nil_iff.2 hgoes]

theorem takeDriver?_client :
    takeDriver? ("postgresql+psycopg://".toList ++ rest) =
      some ("postgresql+psycopg".toList, rest) := by
  have hname : ∀ c ∈ "postgresql+psycopg".toList, (Text.isWord c || c == '+') = true :=
    List.all_eq_true.1 (by decide +kernel)
  have hstop : (Text.isWord ':' || ':' == '+') = false := by decide +kernel
  have hurl : "postgresql+psycopg://".toList ++ rest =
      "postgresql+psycopg".toList ++ ':' :: '/' :: '/' :: rest := rfl
  simp only [takeDriver?, hurl, List.takeWhile_append_of_pos hname, List.takeWhile_cons, hstop,
    Bool.false_eq_true, if_false, List.append_nil, List.drop_left]
  rfl

theorem takeCredentials_append (rest : List Char) {user password : List Char}
    (huser : ∀ c ∈ user, (c == ':' || c == '/') = false) (hpassword : '@' ∉ password) :
    takeCredentials (user ++ ':' :: (password ++ '@' :: rest)) =
      (some user, some password, rest) := by
  simp only [takeCredentials, spanUntil_append _ huser (d := ':') rfl,
    cutFirst?_append rest hpassword]

theorem takeHost_append (rest : List Char) {name : List Char} (hname : name ≠ [])
    (hplain : ∀ c ∈ name, (c == '/' || c == ':' || c == '?') = false) (hbracket : '[' ∉ name) :
    takeHost (name ++ ':' :: rest) = (some name, ':' :: rest) := by
  obtain ⟨first, others, rfl⟩ := List.exists_cons_of_ne_nil hname
  have hspan := spanUntil_append rest hplain (d := ':') rfl
  rw [List.cons_append] at hspan ⊢
  simp only [takeHost, hspan]
  split
  · rename_i heq
    obtain ⟨rfl, -⟩ := List.cons.inj heq
    exact absurd List.mem_cons_self hbracket
  · rfl

/-- A part runs from its mark to the next sign that ends it. -/
theorem takeAfter_append (mark : Char) (rest : List Char) {part : List Char}
    (hpart : ∀ c ∈ part, stops c = false) (hd : stops d = true) :
    takeAfter mark stops (mark :: (part ++ d :: rest)) = (some part, d :: rest) := by
  rw [takeAfter, if_pos rfl, spanUntil_append rest hpart hd]

theorem takeAfter_last (mark : Char) {part : List Char} (hpart : ∀ c ∈ part, stops c = false) :
    takeAfter mark stops (mark :: part) = (some part, []) := by
  rw [takeAfter, if_pos rfl, spanUntil_of_forall hpart]

end Url

/-! ### The parts of an address -/

namespace Part

variable {environment : Environment} {file : Configuration} {part : Part} {text : String}

/-- A variable that is set to a text that is not empty gives the value of its part. -/
theorem value_of_variable (h : environment.get? part.variableName = some text) (hne : text ≠ "") :
    part.value environment file = text := by
  have hgiven : environment.nonempty? part.variableName = some text := by
    rw [Environment.nonempty?, h, Option.filter_some, if_pos (bne_iff_ne.2 hne)]
  rw [value, stated?, hgiven]
  exact if_neg hne

/-- Every part but the password has a value that is not empty. -/
theorem value_ne_empty (h : part ≠ .password) : part.value environment file ≠ "" := by
  have hdefault : part.default ≠ "" := by
    cases part with
    | password => exact absurd rfl h
    | _ => decide
  rw [value]
  split
  · split_ifs with hempty
    · exact hdefault
    · exact hempty
  · exact hdefault

end Part

/-- A letter or digit of ASCII, a point or a hyphen. -/
def isPlain (c : Char) : Bool := c.isAlphanum || c == '.' || c == '-'

/-- What a client needs to reach a database. -/
structure Login where
  user : String
  password : String
  host : String
  port : String
  name : String
  deriving DecidableEq, Repr

/-- The login that the parts of an address make up. -/
def loginOf (part : Part → String) : Login where
  user := part .user
  password := part .password
  host := part .host
  port := part .port
  name := part .name

/-- The login that a URL names. After the driver, the at sign ends the user and the password, with
the first colon between them; the next colon ends the host and the next slash the port. -/
def loginOf? (url : String) : Option Login := do
  let (_, rest) ← Url.takeDriver? url.toList
  let (credentials, rest) ← Url.cutFirst? '@' rest
  let (user, password) ← Url.cutFirst? ':' credentials
  let (host, rest) ← Url.cutFirst? ':' rest
  let (port, name) ← Url.cutFirst? '/' rest
  return {
    user := Url.decoded user
    password := Url.decoded password
    host := String.ofList host
    port := String.ofList port
    name := String.ofList name }

section Given

variable {part : Part → String}

theorem credentials_of_ne {user password : String} (h : password ≠ "") :
    credentials user password = user ++ ":" ++ Text.Percent.encodeForm password :=
  if_neg h

theorem toList_urlOf (h : part .password ≠ "") :
    (urlOf part).toList = "postgresql+psycopg://".toList ++
      ((part .user).toList ++ ':' :: ((Text.Percent.encodeForm (part .password)).toList ++
        '@' :: ((part .host).toList ++ ':' :: ((part .port).toList ++
          '/' :: (part .name).toList)))) := by
  have hcolon : ":".toList = [':'] := rfl
  have hat : "@".toList = ['@'] := rfl
  have hslash : "/".toList = ['/'] := rfl
  unfold urlOf
  rw [credentials_of_ne h]
  simp only [String.toList_append, List.append_assoc, hcolon, hat, hslash, List.cons_append,
    List.nil_append]

/-- A sign that is no letter, no digit and none of the others that stand for themselves is not in
the encoded password. -/
theorem not_mem_encodeForm {c : Char} {text : String}
    (h : c ≠ '+' ∧ c ≠ '%' ∧ Text.Percent.isUnreserved c = false) :
    c ∉ (Text.Percent.encodeForm text).toList := by
  intro hc
  rcases Text.Percent.mem_encodeForm hc with hc | hc | hc
  · exact h.1 hc
  · exact h.2.1 hc
  · rw [h.2.2] at hc
    cases hc

/-- The parts but the password are written with plain characters. -/
def IsPlain (part : Part → String) : Prop :=
  ∀ p ≠ .password, ∀ c ∈ (part p).toList, isPlain c = true

theorem IsPlain.not_mem (h : IsPlain part) {p : Part} (hp : p ≠ .password) {c : Char}
    (hc : isPlain c = false) : c ∉ (part p).toList := by
  intro hmem
  rw [h p hp c hmem] at hc
  cases hc

/-- No sign that ends a part of a URL is in a plain part. -/
theorem IsPlain.ne_sign (h : IsPlain part) {p : Part} (hp : p ≠ .password) {c : Char}
    (hc : c ∈ (part p).toList) : c ≠ ':' ∧ c ≠ '/' ∧ c ≠ '?' := by
  refine ⟨?_, ?_, ?_⟩ <;> rintro rfl <;> exact h.not_mem hp (by decide) hc

theorem IsPlain.decoded_eq (h : IsPlain part) {p : Part} (hp : p ≠ .password) :
    Url.decoded (part p).toList = part p := by
  rw [Url.decoded, String.ofList_toList, Text.Percent.decode_of_not_mem (h.not_mem hp (by decide))]

theorem decoded_encodeForm (text : String) :
    Url.decoded (Text.Percent.encodeForm text).toList = Text.Percent.plussed text := by
  rw [Url.decoded, String.ofList_toList, Text.Percent.decode_encodeForm]

/-- The URL names the login that it was put together from, with plus signs for the spaces of the
password. -/
theorem loginOf?_urlOf (hpassword : part .password ≠ "") (hplain : IsPlain part) :
    loginOf? (urlOf part) =
      some { loginOf part with password := Text.Percent.plussed (part .password) } := by
  have hat : '@' ∉ (part .user).toList ++ ':' :: (Text.Percent.encodeForm (part .password)).toList
      := by
    rw [List.mem_append, List.mem_cons, not_or, not_or]
    exact ⟨hplain.not_mem (by decide) (by decide), by decide, not_mem_encodeForm (by decide)⟩
  have huser : ':' ∉ (part .user).toList := hplain.not_mem (by decide) (by decide)
  have hhost : ':' ∉ (part .host).toList := hplain.not_mem (by decide) (by decide)
  have hport : '/' ∉ (part .port).toList := hplain.not_mem (by decide) (by decide)
  have hcredentials := Url.cutFirst?_append
    ((part .host).toList ++ ':' :: ((part .port).toList ++ '/' :: (part .name).toList)) hat
  rw [List.append_assoc, List.cons_append] at hcredentials
  simp only [loginOf?, toList_urlOf hpassword, Url.takeDriver?_client, hcredentials,
    Url.cutFirst?_append _ huser, Url.cutFirst?_append _ hhost, Url.cutFirst?_append _ hport,
    Option.bind_eq_bind, Option.bind_some, Option.pure_def, String.ofList_toList,
    hplain.decoded_eq, decoded_encodeForm, ne_eq, reduceCtorEq, not_false_eq_true, loginOf]

/-- The reader of URLs reads the same off it. -/
theorem read_urlOf (hpassword : part .password ≠ "") (hplain : IsPlain part)
    (hhost : part .host ≠ "") :
    Url.read (urlOf part) =
      (Url.portOf (some (part .port).toList)).map fun port => {
        driver := "postgresql+psycopg"
        user := some (part .user)
        password := some (Text.Percent.plussed (part .password))
        host := some (part .host)
        port := port
        database := some (part .name) } := by
  have huser : ∀ c ∈ (part .user).toList, (c == ':' || c == '/') = false :=
    fun c hc => by simp [hplain.ne_sign (by decide) hc]
  have hname : ∀ c ∈ (part .host).toList, (c == '/' || c == ':' || c == '?') = false :=
    fun c hc => by simp [hplain.ne_sign (by decide) hc]
  have hport : ∀ c ∈ (part .port).toList, (c == '/' || c == '?') = false :=
    fun c hc => by simp [hplain.ne_sign (by decide) hc]
  have hdatabase : ∀ c ∈ (part .name).toList, (c == '?') = false :=
    fun c hc => by simp [hplain.ne_sign (by decide) hc]
  have hpart : '@' ∉ (Text.Percent.encodeForm (part .password)).toList :=
    not_mem_encodeForm (by decide)
  have hbracket : '[' ∉ (part .host).toList := hplain.not_mem (by decide) (by decide)
  have hgiven : (part .host).toList ≠ [] := mt String.toList_eq_nil_iff.1 hhost
  have hquery : Text.Percent.filledFields
      (String.ofList ((Url.takeAfter '?' (· == '\n') []).1.getD [])) = [] := by decide
  simp only [Url.read, toList_urlOf hpassword, Url.takeDriver?_client,
    Url.takeCredentials_append _ huser hpart, Url.takeHost_append _ hgiven hname hbracket,
    Url.takeAfter_append ':' _ hport (d := '/') rfl, Url.takeAfter_last '/' hdatabase,
    Option.map_some, String.ofList_toList, hplain.decoded_eq, decoded_encodeForm, hquery, ne_eq,
    reduceCtorEq, not_false_eq_true]

end Given

/-- Unless the environment gives the whole URL, the URL of the database names the user, the host,
the port and the database that it was put together from, both to a client that cuts it at its signs
and to the reader of URLs. It names the password with plus signs for its spaces, and so as it was
given exactly if it has no space. -/
theorem loginOf?_urlText {environment : Environment} {file : FileContent} {password : String}
    (hurl : environment.nonempty? "DATABASE_URL" = none)
    (hpassword : environment.get? "DB_PASSWORD" = some password) (hgiven : password ≠ "")
    (hplain : IsPlain (Part.value environment (Configuration.ofFile file))) :
    let part := Part.value environment (Configuration.ofFile file)
    (∀ p text, environment.get? (Part.variableName p) = some text → text ≠ "" → part p = text) ∧
      (loginOf? (urlText environment file) = some (loginOf part) ↔ ' ' ∉ password.toList) ∧
      loginOf? (urlText environment file) =
        some { loginOf part with password := Text.Percent.plussed password } ∧
      Url.read (urlText environment file) =
        (Url.portOf (some (part .port).toList)).map fun port => {
          driver := "postgresql+psycopg"
          user := some (part .user)
          password := some (Text.Percent.plussed password)
          host := some (part .host)
          port := port
          database := some (part .name) } := by
  intro part
  have hvalue : part .password = password := Part.value_of_variable hpassword hgiven
  have hne : part .password ≠ "" := hvalue ▸ hgiven
  have htext : urlText environment file = urlOf part := by
    rw [urlText, hurl]
  have hlogin := loginOf?_urlOf hne hplain
  have hread := read_urlOf hne hplain (Part.value_ne_empty (by decide))
  rw [hvalue] at hlogin hread
  rw [htext]
  refine ⟨fun p text => Part.value_of_variable, ?_, hlogin, hread⟩
  rw [hlogin, ← Text.Percent.plussed_eq_self_iff, Option.some.injEq, Login.mk.injEq]
  simp only [loginOf, hvalue, true_and, and_true]

/-- A password with delimiters, percent and plus signs and letters of other scripts comes back. -/
theorem loginOf?_urlText_delimiters :
    let environment : Environment :=
      [("DB_USER", "scanner"), ("DB_PASSWORD", "p@ss:wörd/%41+"), ("PGHOST", "db.local")]
    environment.nonempty? "DATABASE_URL" = none ∧
      environment.get? "DB_PASSWORD" = some "p@ss:wörd/%41+" ∧
      IsPlain (Part.value environment []) ∧
      loginOf? (urlText environment none) =
        some ⟨"scanner", "p@ss:wörd/%41+", "db.local", "5432", "gvmd"⟩ := by
  intro environment
  have hplain : IsPlain (Part.value environment []) := by
    intro p hp
    refine List.all_eq_true.1 ?_
    cases p with
    | password => exact absurd rfl hp
    | _ => decide +kernel
  have hlogin : loginOf (Part.value environment []) =
      ⟨"scanner", "p@ss:wörd/%41+", "db.local", "5432", "gvmd"⟩ := by decide +kernel
  have hurl : environment.nonempty? "DATABASE_URL" = none := by decide
  have hpassword : environment.get? "DB_PASSWORD" = some "p@ss:wörd/%41+" := by decide
  obtain ⟨-, hcomesBack, -⟩ :=
    @loginOf?_urlText environment none _ hurl hpassword (by decide) hplain
  refine ⟨hurl, hpassword, hplain, ?_⟩
  rw [← hlogin]
  exact hcomesBack.2 (by decide)

/-- A password with a space does not come back. -/
theorem loginOf?_urlText_space :
    let url := urlText [("DB_PASSWORD", "p@ss word")] none
    loginOf? url = some ⟨"gvm", "p@ss+word", "127.0.0.1", "5432", "gvmd"⟩ ∧
      loginOf? url ≠ some ⟨"gvm", "p@ss word", "127.0.0.1", "5432", "gvmd"⟩ := by
  decide +kernel

end ListingFilter.Database
