import Mathlib.Tactic.IntervalCases
import V2XHub.Command.Request
import V2XHub.Lib.JsonText

/-!
# The texts of property trees

`write_json` in its compact form. All that `TmxControl` returns reaches the portal through it, and
some of the code searches the text for brackets and quotes again. A text is a list of characters
here, one for each byte.

Boost ends a compact text with a newline or not, depending on its version: `ending`.
-/

namespace V2XHub.Command

open V2XHub.Lib.JsonText

/-! ## Escapes -/

def hexDigit (n : Nat) : Char := "0123456789ABCDEF".toList.getD (n % 16) '0'

/-- `create_escapes` on one character. No byte is above `0xFF`. -/
def escapeChar (c : Char) : List Char :=
  let n := c.toNat
  if n = 0x20 ∨ n = 0x21 ∨ (0x23 ≤ n ∧ n ≤ 0x2E) ∨ (0x30 ≤ n ∧ n ≤ 0x5B) ∨ 0x5D ≤ n then [c]
  else if n = 0x08 then ['\\', 'b']
  else if n = 0x0C then ['\\', 'f']
  else if n = 0x0A then ['\\', 'n']
  else if n = 0x0D then ['\\', 'r']
  else if n = 0x09 then ['\\', 't']
  else if c = '/' then ['\\', '/']
  else if c = '"' then ['\\', '"']
  else if c = '\\' then ['\\', '\\']
  else ['\\', 'u', hexDigit (n / 4096), hexDigit (n / 256), hexDigit (n / 16), hexDigit n]

/-- `create_escapes`. -/
def escapes (text : String) : List Char := text.toList.flatMap escapeChar

/-- What is written for a character: from `]` on, the character itself. Below, there are few enough
to look at each. -/
theorem forall_escapeChar {P : Char → List Char → Prop}
    (hlow : ∀ n < 0x5D, P (Char.ofNat n) (escapeChar (Char.ofNat n)))
    (hkept : ∀ c, 0x5D ≤ c.toNat → P c [c]) (c : Char) : P c (escapeChar c) := by
  by_cases hc : c.toNat < 0x5D
  · have hP := hlow c.toNat hc
    rw [Char.ofNat_toNat] at hP
    exact hP
  · have hle : 0x5D ≤ c.toNat := Nat.not_lt.mp hc
    have hself : escapeChar c = [c] := if_pos (.inr (.inr (.inr (.inr hle))))
    rw [hself]
    exact hkept c hle

theorem quote_not_mem_escapeChar {c : Char} (h : c ≠ '"') : '"' ∉ escapeChar c := by
  revert h
  apply forall_escapeChar (P := fun c l => c ≠ '"' → '"' ∉ l)
  · decide
  · intro c _ hc hmem
    exact hc (List.mem_singleton.mp hmem).symm

theorem escapeChar_ne_nil (c : Char) : escapeChar c ≠ [] := by
  apply forall_escapeChar (P := fun _ l => l ≠ [])
  · decide
  · intro c _
    exact List.cons_ne_nil c []

theorem quote_not_mem_escapes {text : String} (h : '"' ∉ text.toList) : '"' ∉ escapes text := by
  intro hmem
  obtain ⟨c, hc, hquote⟩ := List.mem_flatMap.mp hmem
  exact quote_not_mem_escapeChar (fun heq => h (heq ▸ hc)) hquote

theorem escapes_ne_nil {text : String} (h : text.toList ≠ []) : escapes text ≠ [] := by
  intro hnil
  obtain ⟨c, rest, hc⟩ := List.exists_cons_of_ne_nil h
  have hempty := List.flatMap_eq_nil_iff.mp hnil c (hc ▸ List.mem_cons_self)
  exact escapeChar_ne_nil c hempty

theorem readString_escapeChar (c : Char) (s : List Char) :
    readString (escapeChar c ++ s) = (readString s).map fun r => (c :: r.1, r.2) := by
  have hcontrol : ∀ n < 0x20, readString (escapeChar (Char.ofNat n) ++ s) =
      (readString s).map fun r => (Char.ofNat n :: r.1, r.2) := by
    intro n hn
    interval_cases n <;> rfl
  by_cases hlow : c.toNat < 0x20
  · have hread := hcontrol c.toNat hlow
    rw [Char.ofNat_toNat] at hread
    exact hread
  · by_cases hquote : c = '"'
    · subst hquote
      rfl
    · by_cases hback : c = '\\'
      · subst hback
        rfl
      · by_cases hslash : c = '/'
        · subst hslash
          rfl
        · have hkept : escapeChar c = [c] := by
            have hne : ∀ d : Char, c ≠ d → c.toNat ≠ d.toNat := by
              intro d hd heq
              exact hd (Char.toNat_inj.mp heq)
            have h₁ : c.toNat ≠ 0x22 := hne _ hquote
            have h₂ : c.toNat ≠ 0x5C := hne _ hback
            have h₃ : c.toNat ≠ 0x2F := hne _ hslash
            unfold escapeChar
            simp only
            rw [if_pos (by omega)]
          rw [hkept]
          exact readString_cons hquote hback hlow s

/-- What `create_escapes` writes is read back. -/
theorem spells_escapes (text : String) : Spells (escapes text) text := by
  intro rest
  unfold escapes
  induction text.toList with
  | nil => rfl
  | cons c s ih =>
      rw [List.flatMap_cons, List.append_assoc, readString_escapeChar, ih]
      rfl

/-! ## Trees -/

def quoted (text : String) : List Char := '"' :: escapes text ++ ['"']

mutual

/-- `write_json_helper` below the root. -/
def writeValue : Ptree → List Char
  | .node data [] => quoted data
  | .node _ (child :: children) =>
      if (child :: children).all (fun c => c.1 = "") then
        '[' :: commaSeparated (writeElements (child :: children)) ++ [']']
      else
        '\x7b' :: commaSeparated (writeMembers (child :: children)) ++ ['\x7d']

def writeElements : List (String × Ptree) → List (List Char)
  | [] => []
  | (_, value) :: children => writeValue value :: writeElements children

def writeMembers : List (String × Ptree) → List (List Char)
  | [] => []
  | (key, value) :: children => (quoted key ++ ':' :: writeValue value) :: writeMembers children

end

/-- `write_json` without `pretty`. -/
def writeJson (ending : Bool) (t : Ptree) : List Char :=
  '\x7b' :: commaSeparated (writeMembers t.children) ++ '\x7d' :: if ending then ['\n'] else []

/-- `TmxControl::GetOutput` as JSON. -/
def getOutput (ending : Bool) (t : Ptree) : List Char :=
  if t.children = [] then [] else writeJson ending t

mutual

/-- `verify_json` below the root: data beside children cannot be written. -/
def verifyJson : Ptree → Bool
  | .node _ [] => true
  | .node data (child :: children) => data == "" && verifyChildren (child :: children)

def verifyChildren : List (String × Ptree) → Bool
  | [] => true
  | (_, value) :: children => verifyJson value && verifyChildren children

end

theorem writeElements_map {α : Type} (f : α → Ptree) (xs : List α) :
    writeElements (xs.map fun x => ("", f x)) = xs.map fun x => writeValue (f x) := by
  induction xs with
  | nil => rfl
  | cons x xs ih =>
      show writeValue (f x) :: writeElements _ = _
      rw [ih]
      rfl

/-- What follows the array in an output that has nothing else. -/
def outputEnd (ending : Bool) : List Char := '\x7d' :: if ending then ['\n'] else []

/-- The output of a query that returns an array. -/
theorem getOutput_array (ending : Bool) (name : String) {rows : List Ptree} (h : rows ≠ []) :
    getOutput ending (.node "" [(name, .node "" (rows.map fun row => ("", row)))]) =
      '\x7b' :: quoted name ++ ':' :: '[' :: commaSeparated (rows.map writeValue) ++
        ']' :: outputEnd ending := by
  obtain ⟨row, rest, rfl⟩ := List.exists_cons_of_ne_nil h
  have helements : writeElements (("", row) :: rest.map fun r => ("", r)) =
      (row :: rest).map writeValue := writeElements_map id (row :: rest)
  simp [getOutput, Ptree.children, writeJson, writeMembers, writeValue, helements, commaSeparated,
    outputEnd]

/-! ## Reading them back -/

mutual

/-- What the text of a tree reads as, below the root. -/
def docOf : Ptree → Doc
  | .node data [] => .text data
  | .node _ (child :: children) =>
      if (child :: children).all (fun c => c.1 = "") then .array (docElements (child :: children))
      else .object (docMembers (child :: children))

def docElements : List (String × Ptree) → List Doc
  | [] => []
  | (_, value) :: children => docOf value :: docElements children

def docMembers : List (String × Ptree) → List (String × Doc)
  | [] => []
  | (key, value) :: children => (key, docOf value) :: docMembers children

end

mutual

theorem reads_writeValue : (t : Ptree) → Reads (writeValue t) (docOf t)
  | .node data [] => by
      unfold writeValue docOf quoted
      exact .text (spells_escapes data)
  | .node _ (child :: children) => by
      unfold writeValue docOf
      split
      · exact .array (readsElement_writeElements (child :: children))
      · exact .object (readsMember_writeMembers (child :: children))

theorem readsElement_writeElements : (children : List (String × Ptree)) →
    List.Forall₂ ReadsElement (writeElements children) (docElements children)
  | [] => by
      unfold writeElements docElements
      exact .nil
  | (_, value) :: children => by
      unfold writeElements docElements
      refine .cons ⟨writeValue value, [], (List.append_nil _).symm, ?_, reads_writeValue value⟩
        (readsElement_writeElements children)
      intro c hc
      cases hc

theorem readsMember_writeMembers : (children : List (String × Ptree)) →
    List.Forall₂ ReadsMember (writeMembers children) (docMembers children)
  | [] => by
      unfold writeMembers docMembers
      exact .nil
  | (key, value) :: children => by
      unfold writeMembers docMembers
      refine .cons ⟨escapes key, [], writeValue value, ?_, spells_escapes key, ?_,
        reads_writeValue value⟩ (readsMember_writeMembers children)
      · simp [quoted]
      · intro c hc
        cases hc

end

/-- The whole output of the writer. -/
theorem reads_root (t : Ptree) :
    Reads ('\x7b' :: commaSeparated (writeMembers t.children) ++ ['\x7d'])
      (.object (docMembers t.children)) :=
  .object (readsMember_writeMembers t.children)

theorem readsElement_writeJson (ending : Bool) (t : Ptree) :
    ReadsElement (writeJson ending t) (.object (docMembers t.children)) := by
  refine ⟨_, if ending then ['\n'] else [], ?_, ?_, reads_root t⟩
  · simp [writeJson]
  · cases ending with
    | true => exact List.forall_mem_singleton.mpr rfl
    | false => exact List.forall_mem_nil _

/-! ## Searching texts -/

/-- `find_first_of`. -/
def findFirstOf (c : Char) (text : List Char) : Option Nat := text.findIdx? (· = c)

/-- `find_last_of`. -/
def findLastOf (c : Char) (text : List Char) : Option Nat :=
  (text.reverse.findIdx? (· = c)).map fun i => text.length - 1 - i

/-- `substr`. -/
def substr (text : List Char) (pos len : Nat) : List Char := (text.drop pos).take len

/-- The text between the first `opening` and the last `closing`, and where it begins. -/
def between (opening closing : Char) (text : List Char) : Option (Nat × List Char) :=
  match findFirstOf opening text, findLastOf closing text with
  | some firstIndex, some lastIndex =>
      if firstIndex ≥ lastIndex then none
      else some (firstIndex, substr text (firstIndex + 1) (lastIndex - firstIndex - 1))
  | _, _ => none

theorem findIdx?_append_cons {c : Char} {before : List Char} (after : List Char)
    (h : c ∉ before) : (before ++ c :: after).findIdx? (· = c) = some before.length := by
  induction before with
  | nil => simp [List.findIdx?_cons]
  | cons b before ih =>
      rw [List.mem_cons, not_or] at h
      rw [List.cons_append, List.findIdx?_cons, ih h.2]
      simp [Ne.symm h.1]

theorem findFirstOf_append {c : Char} {before : List Char} (after : List Char) (h : c ∉ before) :
    findFirstOf c (before ++ c :: after) = some before.length :=
  findIdx?_append_cons after h

theorem findLastOf_append {c : Char} (before : List Char) {after : List Char} (h : c ∉ after) :
    findLastOf c (before ++ c :: after) = some before.length := by
  have hreverse : (before ++ c :: after).reverse = after.reverse ++ c :: before.reverse := by simp
  rw [findLastOf, hreverse, findIdx?_append_cons _ fun hmem => h (List.mem_reverse.mp hmem)]
  simp only [Option.map_some, List.length_append, List.length_cons, List.length_reverse,
    Option.some.injEq]
  omega

theorem substr_append (before middle after : List Char) :
    substr (before ++ middle ++ after) before.length middle.length = middle := by
  unfold substr
  rw [List.append_assoc, List.drop_left, List.take_left]

theorem between_append {opening closing : Char} {before : List Char} (middle : List Char)
    {after : List Char} (hbefore : opening ∉ before) (hafter : closing ∉ after) :
    between opening closing (before ++ opening :: middle ++ closing :: after) =
      some (before.length, middle) := by
  have hlast := findLastOf_append (before ++ opening :: middle) hafter
  have hfirst : findFirstOf opening (before ++ opening :: middle ++ closing :: after) =
      some before.length := by
    rw [List.append_assoc]
    exact findFirstOf_append _ hbefore
  have hlt : ¬ before.length ≥ (before ++ opening :: middle).length := by
    simp only [List.length_append, List.length_cons]
    omega
  have hlength : (before ++ opening :: middle).length - before.length - 1 = middle.length := by
    simp only [List.length_append, List.length_cons]
    omega
  have hsplit : before ++ opening :: middle ++ closing :: after =
      (before ++ [opening]) ++ middle ++ closing :: after := by simp
  have hstart : before.length + 1 = (before ++ [opening]).length := by simp
  unfold between
  rw [hfirst, hlast]
  simp only
  rw [if_neg hlt, hlength, hsplit, hstart, substr_append]

/-- The elements of the array are found. -/
theorem between_array (ending : Bool) {name : String} (hname : '[' ∉ quoted name)
    {rows : List Ptree} (h : rows ≠ []) :
    ∃ firstIndex, between '[' ']'
      (getOutput ending (.node "" [(name, .node "" (rows.map fun row => ("", row)))])) =
        some (firstIndex, commaSeparated (rows.map writeValue)) := by
  have hbefore : '[' ∉ '\x7b' :: quoted name ++ [':'] := by simp [hname]
  have hafter : ']' ∉ outputEnd ending := by
    cases ending with
    | true => decide
    | false => decide
  have hsplit : '\x7b' :: quoted name ++ ':' :: '[' :: commaSeparated (rows.map writeValue) ++
        ']' :: outputEnd ending =
      ('\x7b' :: quoted name ++ [':']) ++ '[' :: commaSeparated (rows.map writeValue) ++
        ']' :: outputEnd ending := by simp
  rw [getOutput_array ending name h, hsplit]
  exact ⟨_, between_append _ hbefore hafter⟩

end V2XHub.Command
