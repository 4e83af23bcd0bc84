import Mathlib.Data.List.Basic
import Mathlib.Data.List.Forall2

/-!
# JSON texts

A reader for JSON texts of strings, objects and arrays, and the rules for texts that were put
together piece by piece: a piece that `Reads` as a document can be a member of an object or an
element of an array, with spaces after the colon or before the comma.

Numbers, the three literals and pairs of surrogates are not read.
-/

namespace V2XHub.Lib.JsonText

inductive Doc where
  | text (value : String)
  | object (members : List (String × Doc))
  | array (elements : List Doc)

namespace Doc

/-- The first member of that name. -/
def get (key : String) : Doc → Option Doc
  | object members => members.lookup key
  | _ => none

/-- The string at the end of a path of names. -/
def leaf (d : Doc) : List String → Option String
  | [] =>
      match d with
      | text value => some value
      | _ => none
  | key :: path => (d.get key).bind fun d' => d'.leaf path

def elements : Doc → List Doc
  | array elements => elements
  | _ => []

end Doc

/-! ## The reader -/

def isSpace (c : Char) : Bool := c = ' ' ∨ c = '\n' ∨ c = '\r' ∨ c = '\t'

def skipSpace (s : List Char) : List Char := s.dropWhile isSpace

def unescape : Char → Option Char
  | 'b' => some '\x08'
  | 'f' => some '\x0c'
  | 'n' => some '\n'
  | 'r' => some '\r'
  | 't' => some '\t'
  | '/' => some '/'
  | '"' => some '"'
  | '\\' => some '\\'
  | _ => none

def hexValue (c : Char) : Option Nat :=
  if '0' ≤ c ∧ c ≤ '9' then some (c.toNat - 48)
  else if 'A' ≤ c ∧ c ≤ 'F' then some (c.toNat - 55)
  else if 'a' ≤ c ∧ c ≤ 'f' then some (c.toNat - 87)
  else none

def readHex (a b c d : Char) : Option Char :=
  match hexValue a, hexValue b, hexValue c, hexValue d with
  | some a, some b, some c, some d => some (.ofNat (4096 * a + 256 * b + 16 * c + d))
  | _, _, _, _ => none

/-- The rest of a string after its first quote. -/
def readString : List Char → Option (List Char × List Char)
  | [] => none
  | '"' :: rest => some ([], rest)
  | '\\' :: 'u' :: c₁ :: c₂ :: c₃ :: c₄ :: rest =>
      (readHex c₁ c₂ c₃ c₄).bind fun d => (readString rest).map fun r => (d :: r.1, r.2)
  | '\\' :: e :: rest =>
      (unescape e).bind fun d => (readString rest).map fun r => (d :: r.1, r.2)
  | c :: rest =>
      if c = '\\' ∨ c.toNat < 0x20 then none
      else (readString rest).map fun r => (c :: r.1, r.2)

/-- A character that stands for itself. -/
theorem readString_cons {c : Char} (hquote : c ≠ '"') (hback : c ≠ '\\') (hlow : ¬ c.toNat < 0x20)
    (s : List Char) : readString (c :: s) = (readString s).map fun r => (c :: r.1, r.2) := by
  rw [readString]
  · rw [if_neg (not_or.mpr ⟨hback, hlow⟩)]
  · exact hquote
  · intro _ _ _ _ _ hc
    exact absurd hc hback
  · intro _ _ hc
    exact absurd hc hback

mutual

/-- A value and what follows it. The first argument bounds the depth of the calls. -/
def readValue : Nat → List Char → Option (Doc × List Char)
  | 0, _ => none
  | n + 1, s =>
      match skipSpace s with
      | '"' :: rest => (readString rest).map fun r => (.text (String.ofList r.1), r.2)
      | '\x7b' :: rest =>
          match skipSpace rest with
          | '\x7d' :: rest => some (.object [], rest)
          | rest => (readMembers n rest).map fun r => (.object r.1, r.2)
      | '[' :: rest =>
          match skipSpace rest with
          | ']' :: rest => some (.array [], rest)
          | rest => (readElements n rest).map fun r => (.array r.1, r.2)
      | _ => none

/-- One or more members, up to the closing brace. -/
def readMembers : Nat → List Char → Option (List (String × Doc) × List Char)
  | 0, _ => none
  | n + 1, s =>
      match skipSpace s with
      | '"' :: rest =>
          (readString rest).bind fun key =>
            match skipSpace key.2 with
            | ':' :: rest =>
                (readValue n rest).bind fun value =>
                  match skipSpace value.2 with
                  | ',' :: rest => (readMembers n rest).map fun r =>
                      ((String.ofList key.1, value.1) :: r.1, r.2)
                  | '\x7d' :: rest => some ([(String.ofList key.1, value.1)], rest)
                  | _ => none
            | _ => none
      | _ => none

/-- One or more elements, up to the closing bracket. -/
def readElements : Nat → List Char → Option (List Doc × List Char)
  | 0, _ => none
  | n + 1, s =>
      (readValue n s).bind fun value =>
        match skipSpace value.2 with
        | ',' :: rest => (readElements n rest).map fun r => (value.1 :: r.1, r.2)
        | ']' :: rest => some ([value.1], rest)
        | _ => none

end

attribute [local simp] readValue readMembers readElements

/-- Read a text that has nothing but spaces after its value. -/
def readDoc (s : List Char) : Option Doc :=
  match readValue s.length s with
  | some (d, rest) => if skipSpace rest = [] then some d else none
  | none => none

/-! ## Lists with commas -/

/-- The texts with commas between them. -/
def commaSeparated : List (List Char) → List Char
  | [] => []
  | [text] => text
  | text :: next :: texts => text ++ ',' :: commaSeparated (next :: texts)

attribute [local simp] commaSeparated

theorem commaSeparated_append {texts texts' : List (List Char)} (h : texts ≠ [])
    (h' : texts' ≠ []) :
    commaSeparated (texts ++ texts') = commaSeparated texts ++ ',' :: commaSeparated texts' := by
  induction texts with
  | nil => exact absurd rfl h
  | cons text texts ih =>
      cases texts with
      | nil =>
          obtain ⟨text', rest, rfl⟩ := List.exists_cons_of_ne_nil h'
          rfl
      | cons next texts =>
          show text ++ ',' :: commaSeparated (next :: texts ++ texts') = _
          rw [ih (List.cons_ne_nil _ _)]
          simp

theorem commaSeparated_ne_nil {texts : List (List Char)} (h : texts ≠ [])
    (htexts : ∀ text ∈ texts, text ≠ []) : commaSeparated texts ≠ [] := by
  obtain ⟨text, rest, rfl⟩ := List.exists_cons_of_ne_nil h
  obtain ⟨htext, _⟩ := List.forall_mem_cons.mp htexts
  cases rest with
  | nil => exact htext
  | cons next rest =>
      intro hnil
      exact htext (List.append_eq_nil_iff.mp hnil).1

/-! ## Texts put together -/

/-- Between quotes, the text reads as the string. -/
def Spells (raw : List Char) (value : String) : Prop :=
  ∀ rest, readString (raw ++ '"' :: rest) = some (value.toList, rest)

/-- The text reads as the document, whatever follows. -/
structure Reads (s : List Char) (d : Doc) : Prop where
  first : ∃ c rest, s = c :: rest ∧ (c = '"' ∨ c = '\x7b' ∨ c = '[')
  value : ∀ n rest, s.length ≤ n → readValue n (s ++ rest) = some (d, rest)

/-- A member of an object. -/
def ReadsMember (s : List Char) (m : String × Doc) : Prop :=
  ∃ raw gap value, s = '"' :: raw ++ '"' :: ':' :: (gap ++ value) ∧ Spells raw m.1 ∧
    (∀ c ∈ gap, isSpace c = true) ∧ Reads value m.2

/-- An element of an array. -/
def ReadsElement (s : List Char) (d : Doc) : Prop :=
  ∃ value gap, s = value ++ gap ∧ (∀ c ∈ gap, isSpace c = true) ∧ Reads value d

theorem skipSpace_append {gap : List Char} (h : ∀ c ∈ gap, isSpace c = true) (s : List Char) :
    skipSpace (gap ++ s) = skipSpace s := by
  induction gap with
  | nil => rfl
  | cons c gap ih =>
      obtain ⟨hc, hgap⟩ := List.forall_mem_cons.mp h
      show (c :: (gap ++ s)).dropWhile isSpace = _
      rw [List.dropWhile_cons_of_pos hc]
      exact ih hgap

theorem skipSpace_cons {c : Char} (h : isSpace c = false) (s : List Char) :
    skipSpace (c :: s) = c :: s :=
  List.dropWhile_cons_of_neg (Bool.eq_false_iff.mp h)

theorem readValue_append {gap : List Char} (h : ∀ c ∈ gap, isSpace c = true) (n : Nat)
    (s : List Char) : readValue n (gap ++ s) = readValue n s := by
  cases n with
  | zero => simp
  | succ n => rw [readValue, readValue, skipSpace_append h]

theorem Reads.text {raw : List Char} {value : String} (h : Spells raw value) :
    Reads ('"' :: raw ++ ['"']) (.text value) where
  first := ⟨'"', raw ++ ['"'], rfl, .inl rfl⟩
  value := by
    intro n rest hn
    obtain ⟨m, rfl⟩ := Nat.exists_eq_add_of_lt (Nat.lt_of_lt_of_le (Nat.succ_pos _) hn)
    have hs : '"' :: raw ++ ['"'] ++ rest = '"' :: (raw ++ '"' :: rest) := by simp
    rw [Nat.zero_add, readValue, hs, skipSpace_cons rfl]
    simp only
    rw [h rest]
    simp

/-- What follows the opening quote of a member. -/
theorem readMembers_cons {raw gap value : List Char} {key : String} {d : Doc}
    (hraw : Spells raw key) (hgap : ∀ c ∈ gap, isSpace c = true) (hvalue : Reads value d)
    {n : Nat} (hn : value.length ≤ n) (rest : List Char) :
    readMembers (n + 1) ('"' :: raw ++ '"' :: ':' :: (gap ++ value) ++ rest) =
      match skipSpace rest with
      | ',' :: rest => (readMembers n rest).map fun r => ((key, d) :: r.1, r.2)
      | '\x7d' :: rest => some ([(key, d)], rest)
      | _ => none := by
  have hs : '"' :: raw ++ '"' :: ':' :: (gap ++ value) ++ rest =
      '"' :: (raw ++ '"' :: (':' :: (gap ++ (value ++ rest)))) := by simp
  rw [readMembers, hs, skipSpace_cons rfl]
  simp only
  rw [hraw]
  simp only [Option.bind_some]
  rw [skipSpace_cons rfl]
  simp only
  rw [readValue_append hgap, hvalue.value n rest hn]
  simp only [Option.bind_some, String.ofList_toList]

theorem readMembers_commaSeparated {texts : List (List Char)} {members : List (String × Doc)}
    (h : List.Forall₂ ReadsMember texts members) (hne : texts ≠ []) {gap : List Char}
    (hgap : ∀ c ∈ gap, isSpace c = true) {n : Nat} (hn : (commaSeparated texts).length < n)
    (rest : List Char) :
    readMembers n (commaSeparated texts ++ (gap ++ '\x7d' :: rest)) = some (members, rest) := by
  -- on the members; each takes one of the calls, and its text is shorter than what is left
  induction h generalizing n with
  | nil => exact absurd rfl hne
  | @cons text member texts members hmember htexts ih =>
      obtain ⟨raw, gap', value, rfl, hraw, hgap', hvalue⟩ := hmember
      obtain ⟨m, rfl⟩ := Nat.exists_eq_add_of_lt (Nat.lt_of_le_of_lt (Nat.zero_le _) hn)
      rw [Nat.zero_add] at hn ⊢
      cases texts with
      | nil =>
          cases htexts
          have hlength : value.length ≤ m := by
            simp only [commaSeparated, List.length_append, List.length_cons] at hn
            omega
          rw [commaSeparated, readMembers_cons hraw hgap' hvalue hlength, skipSpace_append hgap,
            skipSpace_cons rfl]
          rfl
      | cons next texts =>
          have hlength : value.length ≤ m ∧ (commaSeparated (next :: texts)).length < m := by
            simp only [commaSeparated, List.length_append, List.length_cons] at hn
            constructor
            · omega
            · omega
          have hs : commaSeparated
                (('"' :: raw ++ '"' :: ':' :: (gap' ++ value)) :: next :: texts) ++
                  (gap ++ '\x7d' :: rest) =
              '"' :: raw ++ '"' :: ':' :: (gap' ++ value) ++
                ',' :: (commaSeparated (next :: texts) ++ (gap ++ '\x7d' :: rest)) := by
            simp
          rw [hs, readMembers_cons hraw hgap' hvalue hlength.1, skipSpace_cons rfl]
          simp only
          rw [ih (List.cons_ne_nil _ _) hlength.2]
          rfl

theorem ReadsMember.first {s : List Char} {m : String × Doc} (h : ReadsMember s m) :
    ∃ rest, s = '"' :: rest := by
  obtain ⟨raw, gap, value, rfl, _⟩ := h
  exact ⟨_, rfl⟩

theorem commaSeparated_first {text : List Char} {c : Char} {s : List Char} (h : text = c :: s)
    (texts : List (List Char)) : ∃ rest, commaSeparated (text :: texts) = c :: rest := by
  cases texts with
  | nil => exact ⟨s, h⟩
  | cons next texts =>
      refine ⟨s ++ ',' :: commaSeparated (next :: texts), ?_⟩
      rw [commaSeparated, h, List.cons_append]

/-- An object, with white space before its end. -/
theorem Reads.object_gap {texts : List (List Char)} {members : List (String × Doc)}
    (h : List.Forall₂ ReadsMember texts members) {gap : List Char}
    (hgap : ∀ c ∈ gap, isSpace c = true) :
    Reads ('\x7b' :: (commaSeparated texts ++ gap) ++ ['\x7d']) (.object members) where
  first := ⟨'\x7b', _, rfl, .inr (.inl rfl)⟩
  value := by
    intro n rest hn
    obtain ⟨m, rfl⟩ := Nat.exists_eq_add_of_lt (Nat.lt_of_lt_of_le (Nat.succ_pos _) hn)
    rw [Nat.zero_add] at hn ⊢
    have hs : '\x7b' :: (commaSeparated texts ++ gap) ++ ['\x7d'] ++ rest =
        '\x7b' :: (commaSeparated texts ++ (gap ++ '\x7d' :: rest)) := by simp
    rw [readValue, hs, skipSpace_cons rfl]
    cases h with
    | nil =>
        simp only [commaSeparated, List.nil_append]
        rw [skipSpace_append hgap, skipSpace_cons rfl]
        rfl
    | @cons text member texts members hmember htexts =>
        obtain ⟨s, hfirst⟩ := hmember.first
        obtain ⟨s', hs'⟩ := commaSeparated_first hfirst texts
        have hlength : (commaSeparated (text :: texts)).length < m := by
          simp only [List.length_append, List.length_cons] at hn
          omega
        have hread := readMembers_commaSeparated (.cons hmember htexts) (List.cons_ne_nil _ _)
          hgap hlength rest
        rw [hs', List.cons_append] at hread ⊢
        show (readMembers m ('"' :: (s' ++ (gap ++ '\x7d' :: rest)))).map _ = _
        rw [hread]
        rfl

theorem Reads.object {texts : List (List Char)} {members : List (String × Doc)}
    (h : List.Forall₂ ReadsMember texts members) :
    Reads ('\x7b' :: commaSeparated texts ++ ['\x7d']) (.object members) := by
  have hread := Reads.object_gap h (List.forall_mem_nil _)
  rw [List.append_nil] at hread
  exact hread

theorem readElements_commaSeparated {texts : List (List Char)} {docs : List Doc}
    (h : List.Forall₂ ReadsElement texts docs) (hne : texts ≠ []) {n : Nat}
    (hn : (commaSeparated texts).length < n) (rest : List Char) :
    readElements n (commaSeparated texts ++ ']' :: rest) = some (docs, rest) := by
  induction h generalizing n with
  | nil => exact absurd rfl hne
  | @cons text doc texts docs helement htexts ih =>
      obtain ⟨value, gap, rfl, hgap, hvalue⟩ := helement
      obtain ⟨m, rfl⟩ := Nat.exists_eq_add_of_lt (Nat.lt_of_le_of_lt (Nat.zero_le _) hn)
      rw [Nat.zero_add] at hn ⊢
      cases texts with
      | nil =>
          cases htexts
          have hlength : value.length ≤ m := by
            simp only [commaSeparated, List.length_append] at hn
            omega
          rw [commaSeparated, readElements, List.append_assoc, hvalue.value m _ hlength]
          simp only [Option.bind_some]
          rw [skipSpace_append hgap, skipSpace_cons rfl]
          rfl
      | cons next texts =>
          have hlength : value.length ≤ m ∧ (commaSeparated (next :: texts)).length < m := by
            simp only [commaSeparated, List.length_append, List.length_cons] at hn
            constructor
            · omega
            · omega
          have hs : commaSeparated ((value ++ gap) :: next :: texts) ++ ']' :: rest =
              value ++ (gap ++ ',' :: (commaSeparated (next :: texts) ++ ']' :: rest)) := by
            simp
          rw [hs, readElements, hvalue.value m _ hlength.1]
          simp only [Option.bind_some]
          rw [skipSpace_append hgap, skipSpace_cons rfl]
          simp only
          rw [ih (List.cons_ne_nil _ _) hlength.2]
          rfl

theorem Reads.array {texts : List (List Char)} {docs : List Doc}
    (h : List.Forall₂ ReadsElement texts docs) :
    Reads ('[' :: commaSeparated texts ++ [']']) (.array docs) where
  first := ⟨'[', _, rfl, .inr (.inr rfl)⟩
  value := by
    intro n rest hn
    obtain ⟨m, rfl⟩ := Nat.exists_eq_add_of_lt (Nat.lt_of_lt_of_le (Nat.succ_pos _) hn)
    rw [Nat.zero_add] at hn ⊢
    have hs : '[' :: commaSeparated texts ++ [']'] ++ rest =
        '[' :: (commaSeparated texts ++ ']' :: rest) := by simp
    rw [readValue, hs, skipSpace_cons rfl]
    cases h with
    | nil =>
        simp only [commaSeparated, List.nil_append]
        rw [skipSpace_cons rfl]
        rfl
    | @cons text doc texts docs helement htexts =>
        have hlength : (commaSeparated (text :: texts)).length < m := by
          simp only [List.length_append, List.length_cons] at hn
          omega
        have hread := readElements_commaSeparated (.cons helement htexts) (List.cons_ne_nil _ _)
          hlength rest
        obtain ⟨value, gap, htext, hgap, hvalue⟩ := helement
        obtain ⟨c, s, hvalue', hc⟩ := hvalue.first
        have hfirst : text = c :: (s ++ gap) := by rw [htext, hvalue', List.cons_append]
        obtain ⟨s', hs'⟩ := commaSeparated_first hfirst texts
        rw [hs', List.cons_append] at hread ⊢
        rcases hc with rfl | rfl | rfl
        · show (readElements m ('"' :: (s' ++ ']' :: rest))).map _ = _
          rw [hread]
          rfl
        · show (readElements m ('\x7b' :: (s' ++ ']' :: rest))).map _ = _
          rw [hread]
          rfl
        · show (readElements m ('[' :: (s' ++ ']' :: rest))).map _ = _
          rw [hread]
          rfl

theorem Reads.readDoc {s : List Char} {d : Doc} (h : Reads s d) {gap : List Char}
    (hgap : ∀ c ∈ gap, isSpace c = true) : readDoc (s ++ gap) = some d := by
  have hskip : skipSpace gap = [] := by
    have hnil := skipSpace_append hgap []
    rw [List.append_nil] at hnil
    exact hnil
  unfold JsonText.readDoc
  rw [h.value _ gap (by simp)]
  simp only
  rw [if_pos hskip]

theorem Reads.readDoc_eq {s : List Char} {d : Doc} (h : Reads s d) :
    JsonText.readDoc s = some d := by
  have hread : JsonText.readDoc (s ++ []) = some d :=
    h.readDoc fun c hc => absurd hc List.not_mem_nil
  rw [List.append_nil] at hread
  exact hread

theorem ReadsElement.readDoc {s : List Char} {d : Doc} (h : ReadsElement s d) :
    JsonText.readDoc s = some d := by
  obtain ⟨value, gap, rfl, hgap, hread⟩ := h
  exact hread.readDoc hgap

/-! ## The characters of a text that is written out -/

section

variable {s t : String} {l m : List Char}

theorem toList_of_ofList (h : String.ofList l = s) : s.toList = l := by
  rw [← h, String.toList_ofList]

theorem toList_append_of (hs : s.toList = l) (ht : t.toList = m) : (s ++ t).toList = l ++ m := by
  rw [String.toList_append, hs, ht]

end

end V2XHub.Lib.JsonText
