import V2XHub.Tmx.CJsonText

/-!
# What cJSON prints is parsed

An item whose numbers are integers below 2^53 is printed, formatted or not, and parsed to the same
item. Only the integer that is kept beside a number is made anew. The unformatted text has no
control characters.
-/

namespace V2XHub.Tmx

namespace CJsonText

open V2XHub.Lib

mutual

/-- Strings without a NUL, and integers below 2^53. -/
def Printable : Item → Prop
  | .number _ valuedouble => ∃ z : Int, valuedouble = z ∧ |z| < 2 ^ 53
  | .string s => 0 ∉ s
  | .array items => PrintableItems items
  | .object members => PrintableMembers members
  | _ => True

def PrintableItems : List Item → Prop
  | [] => True
  | item :: items => Printable item ∧ PrintableItems items

def PrintableMembers : List (List UInt8 × Item) → Prop
  | [] => True
  | (name, item) :: members => 0 ∉ name ∧ Printable item ∧ PrintableMembers members

end

mutual

/-- The item as the parser makes it, with each integer from its number. -/
def reparsed : Item → Item
  | .number _ valuedouble => .number (trunc valuedouble) valuedouble
  | .array items => .array (reparsedItems items)
  | .object members => .object (reparsedMembers members)
  | item => item

def reparsedItems : List Item → List Item
  | [] => []
  | item :: items => reparsed item :: reparsedItems items

def reparsedMembers : List (List UInt8 × Item) → List (List UInt8 × Item)
  | [] => []
  | (name, item) :: members => (name, reparsed item) :: reparsedMembers members

end

mutual

/-- The integer beside each number is the number. -/
def KeepsIntegers : Item → Prop
  | .number valueint valuedouble => valuedouble = valueint
  | .array items => KeepsIntegersItems items
  | .object members => KeepsIntegersMembers members
  | _ => True

def KeepsIntegersItems : List Item → Prop
  | [] => True
  | item :: items => KeepsIntegers item ∧ KeepsIntegersItems items

def KeepsIntegersMembers : List (List UInt8 × Item) → Prop
  | [] => True
  | (_, item) :: members => KeepsIntegers item ∧ KeepsIntegersMembers members

end

mutual

theorem reparsed_eq_self {item : Item} (h : KeepsIntegers item) : reparsed item = item := by
  match item with
  | .null => rfl
  | .false => rfl
  | .true => rfl
  | .string s => rfl
  | .number valueint valuedouble =>
      have hvalue : trunc valuedouble = valueint := by
        rw [h, trunc_intCast]
      rw [reparsed, hvalue]
  | .array items => exact congrArg Item.array (reparsedItems_eq_self h)
  | .object members => exact congrArg Item.object (reparsedMembers_eq_self h)

theorem reparsedItems_eq_self {items : List Item} (h : KeepsIntegersItems items) :
    reparsedItems items = items := by
  match items with
  | [] => rfl
  | item :: items => rw [reparsedItems, reparsed_eq_self h.1, reparsedItems_eq_self h.2]

theorem reparsedMembers_eq_self {members : List (List UInt8 × Item)}
    (h : KeepsIntegersMembers members) : reparsedMembers members = members := by
  match members with
  | [] => rfl
  | (name, item) :: members =>
      rw [reparsedMembers, reparsed_eq_self h.1, reparsedMembers_eq_self h.2]

end

section

variable {b : UInt8} {rest : List UInt8} {n : Nat}

/-! ## The parser, by the first byte -/

theorem not_prefix {c : UInt8} (h : c ≠ b) (word rest : List UInt8) :
    ¬ (c :: word) <+: (b :: rest) := fun hprefix => h (List.cons_prefix_cons.mp hprefix).1

/-- No literal begins so. -/
def NoLiteral (b : UInt8) : Prop := 0x6e ≠ b ∧ 0x66 ≠ b ∧ 0x74 ≠ b

instance decidableNoLiteral (b : UInt8) : Decidable (NoLiteral b) :=
  inferInstanceAs (Decidable (_ ∧ _ ∧ _))

theorem parseValue_cons (h : NoLiteral b) (n : Nat) (rest : List UInt8) :
    parseValue (n + 1) (b :: rest) =
      if b = quote then (parseString (b :: rest)).map fun r => (.string r.1, r.2)
      else if b = 0x2d ∨ b = 0x2e ∨ isDigit b then some (parseNumber (b :: rest))
      else if b = 0x5b then parseArray n rest
      else if b = 0x7b then parseObject n rest
      else none := by
  have hnull : ¬ ascii "null" <+: b :: rest := not_prefix h.1 _ rest
  have hfalse : ¬ ascii "false" <+: b :: rest := not_prefix h.2.1 _ rest
  have htrue : ¬ ascii "true" <+: b :: rest := not_prefix h.2.2 _ rest
  rw [parseValue.eq_def]
  simp only
  rw [if_neg hnull, if_neg hfalse, if_neg htrue]

theorem parseValue_string (n : Nat) (rest : List UInt8) :
    parseValue (n + 1) (quote :: rest) =
      (parseString (quote :: rest)).map fun r => (.string r.1, r.2) := by
  rw [parseValue_cons (by decide), if_pos rfl]

theorem parseValue_number (h : b = 0x2d ∨ isDigit b = true) (n : Nat) (rest : List UInt8) :
    parseValue (n + 1) (b :: rest) = some (parseNumber (b :: rest)) := by
  have hlt : b.toNat ≤ 0x39 ∧ b ≠ quote := by
    rcases h with rfl | h
    · decide
    · refine ⟨(isDigit_iff.mp h).2, ?_⟩
      rintro rfl
      exact absurd h (by decide)
  have hliteral : NoLiteral b := by
    refine ⟨?_, ?_, ?_⟩ <;>
    · rintro rfl
      exact absurd hlt.1 (by decide)
  rw [parseValue_cons hliteral, if_neg hlt.2, if_pos (h.imp_right Or.inr)]

theorem parseValue_array (n : Nat) (rest : List UInt8) :
    parseValue (n + 1) (0x5b :: rest) = parseArray n rest := by
  rw [parseValue_cons (by decide)]
  rfl

theorem parseValue_object (n : Nat) (rest : List UInt8) :
    parseValue (n + 1) (0x7b :: rest) = parseObject n rest := by
  rw [parseValue_cons (by decide)]
  rfl

/-- Behind the bracket stands a value. -/
theorem parseArray_of_skip {value : List UInt8} (hskip : skip value = b :: rest) (hb : b ≠ 0x5d)
    (n : Nat) : parseArray (n + 1) value =
      (parseValue n (b :: rest)).bind fun item =>
        (parseItems n (skip item.2)).map fun items => (.array (item.1 :: items.1), items.2) := by
  rw [parseArray, hskip]
  split
  · next h => exact absurd (List.cons.inj h).1 hb
  · rfl

theorem parseObject_of_skip {value : List UInt8} (hskip : skip value = b :: rest) (hb : b ≠ 0x7d)
    (n : Nat) : parseObject (n + 1) value =
      (parseMember n (b :: rest)).bind fun member =>
        (parseMembers n (skip member.2)).map fun members =>
          (.object (member.1 :: members.1), members.2) := by
  rw [parseObject, hskip]
  split
  · next h => exact absurd (List.cons.inj h).1 hb
  · rfl

end

/-! ## What is printed begins a value -/

section

variable (realText : ℚ → List UInt8) {item : Item} {rest : List UInt8}

/-- What is behind a value. -/
theorem stop_cons {b : UInt8} (h : b = 0x2c ∨ b = 0x5d ∨ b = 0x7d ∨ b = 0x0a)
    (rest : List UInt8) : Stop (b :: rest) := by
  intro c hc
  obtain rfl := Option.some.inj hc
  rcases h with rfl | rfl | rfl | rfl <;> decide

theorem stop_nil : Stop [] := fun _ h => nomatch h

theorem exists_decimal (z : Int) :
    ∃ b rest, decimal z = b :: rest ∧ (b = 0x2d ∨ isDigit b = true) := by
  rw [decimal]
  split
  · exact ⟨_, _, rfl, Or.inl rfl⟩
  · obtain ⟨b, rest, h⟩ := List.exists_cons_of_ne_nil (decimalNat_ne_nil z.natAbs)
    refine ⟨b, rest, h, Or.inr (forall_mem_decimalNat (n := z.natAbs) b ?_)⟩
    rw [h]
    exact List.mem_cons_self

/-- The first byte of a value: no white space, and no end of an array or object. -/
theorem exists_printValue (h : Printable item) (fmt : Bool) (depth : Nat) :
    ∃ b rest, printValue realText fmt depth item = b :: rest ∧ ¬ b ≤ 32 ∧ b ≠ 0x5d := by
  cases item with
  | null => exact ⟨_, _, rfl, by decide, by decide⟩
  | false => exact ⟨_, _, rfl, by decide, by decide⟩
  | true => exact ⟨_, _, rfl, by decide, by decide⟩
  | number valueint valuedouble =>
      obtain ⟨z, rfl, hz⟩ := h
      obtain ⟨b, rest, hdecimal, hb⟩ := exists_decimal z
      refine ⟨b, rest, ?_, ?_⟩
      · rw [printValue, printNumber_intCast realText valueint hz, hdecimal]
      · rcases hb with rfl | hb
        · decide
        · have hrange := isDigit_iff.mp hb
          refine ⟨fun hle => ?_, ?_⟩
          · have hnat := UInt8.le_iff_toNat_le.mp hle
            exact absurd (Nat.le_trans hrange.1 hnat) (by decide)
          · rintro rfl
            exact absurd hb (by decide)
  | string s => exact ⟨_, _, rfl, by decide, by decide⟩
  | array items =>
      cases items with
      | nil => exact ⟨_, _, rfl, by decide, by decide⟩
      | cons item items => exact ⟨_, _, rfl, by decide, by decide⟩
  | object members =>
      cases members with
      | nil => exact ⟨_, _, rfl, by decide, by decide⟩
      | cons member members => exact ⟨_, _, rfl, by decide, by decide⟩

theorem two_le_length_printString (name : List UInt8) : 2 ≤ (printString name).length := by
  simp [printString]

/-- What stands behind the first entry of an array. -/
theorem stop_printItems (fmt : Bool) (depth : Nat) (items : List Item) (rest : List UInt8) :
    Stop (printItems realText fmt depth items ++ 0x5d :: rest) ∧
      skip (printItems realText fmt depth items ++ 0x5d :: rest) =
        printItems realText fmt depth items ++ 0x5d :: rest := by
  cases items with
  | nil => exact ⟨stop_cons (by decide) _, skip_cons (by decide) _⟩
  | cons item items => exact ⟨stop_cons (by decide) _, skip_cons (by decide) _⟩

/-- The end of an object. -/
def closing (fmt : Bool) (depth : Nat) : List UInt8 := newline fmt ++ tabs fmt depth ++ [0x7d]

theorem skip_closing (fmt : Bool) (depth : Nat) (rest : List UInt8) :
    skip (closing fmt depth ++ rest) = 0x7d :: rest := by
  rw [closing, List.append_assoc, List.append_assoc, skip_append le_of_mem_newline,
    skip_append le_of_mem_tabs]
  exact skip_cons (by decide) rest

theorem stop_closing (fmt : Bool) (depth : Nat) (rest : List UInt8) :
    Stop (closing fmt depth ++ rest) := by
  cases fmt with
  | false => exact stop_cons (by decide) _
  | true => exact stop_cons (by decide) _

/-! ## What is printed is parsed -/

/-- The item is parsed where it is printed, with a call for each byte. -/
def ParsedWhere (fmt : Bool) (depth : Nat) (item : Item) : Prop :=
  ∀ n rest, Stop rest → (printValue realText fmt depth item).length ≤ n →
    parseValue n (printValue realText fmt depth item ++ rest) = some (reparsed item, rest)

/-- The entries of an array, and its end. -/
def ItemsParsed (fmt : Bool) (depth : Nat) (items : List Item) : Prop :=
  ∀ n rest, (printItems realText fmt depth items).length + 1 ≤ n →
    parseItems n (printItems realText fmt depth items ++ 0x5d :: rest) =
      some (reparsedItems items, rest)

/-- The entries of an object, and its end. -/
def MembersParsed (fmt : Bool) (depth : Nat) (members : List (List UInt8 × Item)) : Prop :=
  ∀ outer n rest, (printMembers realText fmt depth members).length + 1 ≤ n →
    parseMembers n (skip (printMembers realText fmt depth members ++ closing fmt outer ++ rest)) =
      some (reparsedMembers members, rest)

variable {realText} {fmt : Bool} {depth : Nat}

theorem parse_printMember {name : List UInt8} (hname : 0 ∉ name)
    (hprintable : Printable item) (hitem : ParsedWhere realText fmt depth item) {n : Nat}
    (hn : (printString name).length + (printValue realText fmt depth item).length ≤ n)
    (hstop : Stop rest) :
    parseMember n (printString name ++ 0x3a :: tabs fmt 1 ++ printValue realText fmt depth item ++
      rest) = some ((name, reparsed item), rest) := by
  have hlength := two_le_length_printString name
  obtain ⟨k, rfl⟩ : ∃ k, n = k + 1 := ⟨n - 1, by omega⟩
  obtain ⟨b, tail, hprint, hb, -⟩ := exists_printValue realText hprintable fmt depth
  have hvalue : skip (tabs fmt 1 ++ (printValue realText fmt depth item ++ rest)) =
      printValue realText fmt depth item ++ rest := by
    rw [skip_append le_of_mem_tabs, hprint]
    exact skip_cons hb _
  rw [parseMember, List.append_assoc, List.append_assoc, parseString_printString hname,
    Option.bind_some]
  simp only [List.cons_append]
  rw [skip_cons (by decide)]
  simp only [hvalue]
  rw [hitem k rest hstop (by omega)]
  rfl

theorem parsedWhere_number {valueint : Int} {valuedouble : ℚ}
    (h : Printable (.number valueint valuedouble)) :
    ParsedWhere realText fmt depth (.number valueint valuedouble) := by
  intro n rest hstop hn
  obtain ⟨z, rfl, hz⟩ := h
  obtain ⟨b, digits, hdecimal, hb⟩ := exists_decimal z
  rw [printValue, printNumber_intCast realText valueint hz] at hn ⊢
  obtain ⟨k, rfl⟩ : ∃ k, n = k + 1 := by
    rw [hdecimal, List.length_cons] at hn
    exact ⟨n - 1, by omega⟩
  have hread := parseNumber_decimal hstop z
  rw [hdecimal, List.cons_append] at hread ⊢
  rw [parseValue_number hb, hread, reparsed, trunc_intCast]

theorem parsedWhere_string {s : List UInt8} (hs : 0 ∉ s) :
    ParsedWhere realText fmt depth (.string s) := by
  intro n rest _ hn
  have hlength := two_le_length_printString s
  obtain ⟨k, rfl⟩ : ∃ k, n = k + 1 := by
    rw [printValue] at hn
    exact ⟨n - 1, by omega⟩
  have hread := parseString_printString hs rest
  rw [printValue]
  show parseValue (k + 1) (quote :: _) = _
  rw [parseValue_string]
  show (parseString (printString s ++ rest)).map _ = _
  rw [hread]
  rfl

theorem parsedWhere_literal (word : List UInt8) {item : Item}
    (hword : printValue realText fmt depth item = word) (hne : word ≠ [])
    (hread : ∀ n rest, parseValue (n + 1) (word ++ rest) = some (item, rest))
    (hsame : reparsed item = item) : ParsedWhere realText fmt depth item := by
  intro n rest _ hn
  rw [hword] at hn ⊢
  have hpos := List.length_pos_of_ne_nil hne
  obtain ⟨k, rfl⟩ : ∃ k, n = k + 1 := ⟨n - 1, by omega⟩
  rw [hread, hsame]

theorem parseValue_null (n : Nat) (rest : List UInt8) :
    parseValue (n + 1) (ascii "null" ++ rest) = some (.null, rest) := by
  rw [parseValue.eq_def]
  simp only
  rw [if_pos (List.prefix_append _ _)]
  rfl

theorem parseValue_false (n : Nat) (rest : List UInt8) :
    parseValue (n + 1) (ascii "false" ++ rest) = some (.false, rest) := by
  have hnull : ¬ ascii "null" <+: ascii "false" ++ rest := not_prefix (by decide) _ _
  rw [parseValue.eq_def]
  simp only
  rw [if_neg hnull, if_pos (List.prefix_append _ _)]
  rfl

theorem parseValue_true (n : Nat) (rest : List UInt8) :
    parseValue (n + 1) (ascii "true" ++ rest) = some (.true, rest) := by
  have hnull : ¬ ascii "null" <+: ascii "true" ++ rest := not_prefix (by decide) _ _
  have hfalse : ¬ ascii "false" <+: ascii "true" ++ rest := not_prefix (by decide) _ _
  rw [parseValue.eq_def]
  simp only
  rw [if_neg hnull, if_neg hfalse, if_pos (List.prefix_append _ _)]
  rfl

theorem parsedWhere_array {items : List Item} (hprintable : Printable item)
    (hitem : ParsedWhere realText fmt (depth + 1) item)
    (hitems : ItemsParsed realText fmt (depth + 1) items) :
    ParsedWhere realText fmt depth (.array (item :: items)) := by
  intro n rest _ hn
  obtain ⟨b, tail, hprint, hb, hend⟩ := exists_printValue realText hprintable fmt (depth + 1)
  obtain ⟨hstop, hskip⟩ := stop_printItems realText fmt (depth + 1) items rest
  have hpos : 0 < (printValue realText fmt (depth + 1) item).length := by
    rw [hprint]
    exact Nat.succ_pos _
  simp only [printValue, List.length_cons, List.length_append, List.length_nil] at hn
  obtain ⟨k, rfl⟩ : ∃ k, n = k + 1 + 1 := ⟨n - 2, by omega⟩
  have htext : printValue realText fmt depth (.array (item :: items)) ++ rest =
      0x5b :: (printValue realText fmt (depth + 1) item ++
        (printItems realText fmt (depth + 1) items ++ 0x5d :: rest)) := by
    simp [printValue]
  have hfirst : skip (printValue realText fmt (depth + 1) item ++
      (printItems realText fmt (depth + 1) items ++ 0x5d :: rest)) =
        b :: (tail ++ (printItems realText fmt (depth + 1) items ++ 0x5d :: rest)) := by
    rw [hprint]
    exact skip_cons hb _
  rw [htext, parseValue_array, parseArray_of_skip hfirst hend, ← List.cons_append, ← hprint,
    hitem k _ hstop (by omega), Option.bind_some, hskip, hitems k rest (by omega)]
  rfl

theorem parsedWhere_array_nil : ParsedWhere realText fmt depth (.array []) := by
  intro n rest _ hn
  obtain ⟨k, rfl⟩ : ∃ k, n = k + 1 + 1 := by
    have htwo : 2 ≤ n := hn
    exact ⟨n - 2, by omega⟩
  show parseValue (k + 1 + 1) (0x5b :: 0x5d :: rest) = _
  rw [parseValue_array, parseArray, skip_cons (by decide)]
  rfl

theorem itemsParsed_nil : ItemsParsed realText fmt depth [] := by
  intro n rest hn
  obtain ⟨k, rfl⟩ : ∃ k, n = k + 1 := ⟨n - 1, by omega⟩
  rfl

theorem itemsParsed_cons {items : List Item} (hprintable : Printable item)
    (hitem : ParsedWhere realText fmt depth item) (hitems : ItemsParsed realText fmt depth items) :
    ItemsParsed realText fmt depth (item :: items) := by
  intro n rest hn
  obtain ⟨b, tail, hprint, hb, -⟩ := exists_printValue realText hprintable fmt depth
  obtain ⟨hstop, hskip⟩ := stop_printItems realText fmt depth items rest
  have hpos : 0 < (printValue realText fmt depth item).length := by
    rw [hprint]
    exact Nat.succ_pos _
  simp only [printItems, List.length_cons, List.length_append] at hn
  obtain ⟨k, rfl⟩ : ∃ k, n = k + 1 := ⟨n - 1, by omega⟩
  have htext : printItems realText fmt depth (item :: items) ++ 0x5d :: rest =
      0x2c :: ((if fmt then [0x20] else []) ++ (printValue realText fmt depth item ++
        (printItems realText fmt depth items ++ 0x5d :: rest))) := by
    simp [printItems]
  have hspace : ∀ b ∈ (if fmt then [0x20] else [] : List UInt8), b ≤ 32 := by
    cases fmt with
    | false => exact List.forall_mem_nil _
    | true => exact List.forall_mem_singleton.mpr (by decide)
  have hfirst : skip (printValue realText fmt depth item ++
      (printItems realText fmt depth items ++ 0x5d :: rest)) =
        printValue realText fmt depth item ++
          (printItems realText fmt depth items ++ 0x5d :: rest) := by
    rw [hprint]
    exact skip_cons hb _
  rw [htext, parseItems, skip_append hspace, hfirst, hitem k _ hstop (by omega), Option.bind_some,
    hskip,
    hitems k rest (by omega)]
  rfl

theorem parsedWhere_object_nil : ParsedWhere realText fmt depth (.object []) := by
  intro n rest _ hn
  have htext : printValue realText fmt depth (.object []) ++ rest =
      0x7b :: (closing fmt (depth - 1) ++ rest) := by
    simp [printValue, closing]
  obtain ⟨k, rfl⟩ : ∃ k, n = k + 1 + 1 := by
    simp only [printValue, List.length_cons, List.length_append] at hn
    exact ⟨n - 2, by omega⟩
  rw [htext, parseValue_object, parseObject, skip_closing]
  rfl

theorem membersParsed_nil : MembersParsed realText fmt depth [] := by
  intro outer n rest hn
  obtain ⟨k, rfl⟩ : ∃ k, n = k + 1 := ⟨n - 1, by omega⟩
  show parseMembers (k + 1) (skip (closing fmt outer ++ rest)) = _
  rw [skip_closing]
  rfl

theorem stop_printMembers (realText : ℚ → List UInt8) (fmt : Bool) (depth outer : Nat)
    (members : List (List UInt8 × Item)) (rest : List UInt8) :
    Stop (printMembers realText fmt depth members ++ closing fmt outer ++ rest) := by
  cases members with
  | nil => exact stop_closing fmt outer rest
  | cons member members => exact stop_cons (by decide) _

theorem membersParsed_cons {name : List UInt8} {members : List (List UInt8 × Item)}
    (hname : 0 ∉ name) (hprintable : Printable item)
    (hitem : ParsedWhere realText fmt depth item)
    (hmembers : MembersParsed realText fmt depth members) :
    MembersParsed realText fmt depth ((name, item) :: members) := by
  intro outer n rest hn
  have hstop := stop_printMembers realText fmt depth outer members rest
  have hlength := two_le_length_printString name
  simp only [printMembers, List.length_cons, List.length_append] at hn
  obtain ⟨k, rfl⟩ : ∃ k, n = k + 1 := ⟨n - 1, by omega⟩
  have htext : printMembers realText fmt depth ((name, item) :: members) ++ closing fmt outer ++
      rest = 0x2c :: (newline fmt ++ (tabs fmt depth ++ (printString name ++ 0x3a :: tabs fmt 1 ++
        printValue realText fmt depth item ++
          (printMembers realText fmt depth members ++ closing fmt outer ++ rest)))) := by
    simp [printMembers]
  have hquote : skip (printString name ++ 0x3a :: tabs fmt 1 ++
      printValue realText fmt depth item ++
        (printMembers realText fmt depth members ++ closing fmt outer ++ rest)) =
      printString name ++ 0x3a :: tabs fmt 1 ++ printValue realText fmt depth item ++
        (printMembers realText fmt depth members ++ closing fmt outer ++ rest) :=
    skip_cons (by decide) _
  rw [htext, skip_cons (by decide), parseMembers, skip_append le_of_mem_newline,
    skip_append le_of_mem_tabs, hquote,
    parse_printMember hname hprintable hitem (by omega) hstop, Option.bind_some,
    hmembers outer k rest (by omega)]
  rfl

theorem parsedWhere_object {name : List UInt8} {members : List (List UInt8 × Item)}
    (hname : 0 ∉ name) (hprintable : Printable item)
    (hitem : ParsedWhere realText fmt (depth + 1) item)
    (hmembers : MembersParsed realText fmt (depth + 1) members) :
    ParsedWhere realText fmt depth (.object ((name, item) :: members)) := by
  intro n rest _ hn
  have hstop := stop_printMembers realText fmt (depth + 1) depth members rest
  have hlength := two_le_length_printString name
  simp only [printValue, List.length_cons, List.length_append, List.length_nil] at hn
  obtain ⟨k, rfl⟩ : ∃ k, n = k + 1 + 1 := ⟨n - 2, by omega⟩
  have htext : printValue realText fmt depth (.object ((name, item) :: members)) ++ rest =
      0x7b :: (newline fmt ++ (tabs fmt (depth + 1) ++ (printString name ++ 0x3a :: tabs fmt 1 ++
        printValue realText fmt (depth + 1) item ++
          (printMembers realText fmt (depth + 1) members ++ closing fmt depth ++ rest)))) := by
    simp [printValue, closing]
  have hquote : skip (newline fmt ++ (tabs fmt (depth + 1) ++ (printString name ++
      0x3a :: tabs fmt 1 ++ printValue realText fmt (depth + 1) item ++
        (printMembers realText fmt (depth + 1) members ++ closing fmt depth ++ rest)))) =
      printString name ++ 0x3a :: tabs fmt 1 ++ printValue realText fmt (depth + 1) item ++
        (printMembers realText fmt (depth + 1) members ++ closing fmt depth ++ rest) := by
    rw [skip_append le_of_mem_newline, skip_append le_of_mem_tabs]
    exact skip_cons (by decide) _
  rw [htext, parseValue_object, parseObject_of_skip hquote (by decide)]
  show (parseMember k (printString name ++ 0x3a :: tabs fmt 1 ++ _ ++ _)).bind _ = _
  rw [parse_printMember hname hprintable hitem (by omega) hstop, Option.bind_some,
    hmembers depth k rest (by omega)]
  rfl

mutual

theorem parse_printValue (item : Item) (h : Printable item) (fmt : Bool) (depth : Nat) :
    ParsedWhere realText fmt depth item := by
  match item with
  | .null => exact parsedWhere_literal (ascii "null") rfl (by decide) parseValue_null rfl
  | .false => exact parsedWhere_literal (ascii "false") rfl (by decide) parseValue_false rfl
  | .true => exact parsedWhere_literal (ascii "true") rfl (by decide) parseValue_true rfl
  | .number valueint valuedouble => exact parsedWhere_number h
  | .string s => exact parsedWhere_string h
  | .array [] => exact parsedWhere_array_nil
  | .array (item :: items) =>
      exact parsedWhere_array h.1 (parse_printValue item h.1 fmt (depth + 1))
        (parse_printItems items h.2 fmt (depth + 1))
  | .object [] => exact parsedWhere_object_nil
  | .object ((name, item) :: members) =>
      exact parsedWhere_object h.1 h.2.1 (parse_printValue item h.2.1 fmt (depth + 1))
        (parse_printMembers members h.2.2 fmt (depth + 1))

theorem parse_printItems (items : List Item) (h : PrintableItems items) (fmt : Bool)
    (depth : Nat) : ItemsParsed realText fmt depth items := by
  match items with
  | [] => exact itemsParsed_nil
  | item :: items =>
      exact itemsParsed_cons h.1 (parse_printValue item h.1 fmt depth)
        (parse_printItems items h.2 fmt depth)

theorem parse_printMembers (members : List (List UInt8 × Item)) (h : PrintableMembers members)
    (fmt : Bool) (depth : Nat) : MembersParsed realText fmt depth members := by
  match members with
  | [] => exact membersParsed_nil
  | (name, item) :: members =>
      exact membersParsed_cons h.1 h.2.1 (parse_printValue item h.2.1 fmt depth)
        (parse_printMembers members h.2.2 fmt depth)

end

/-- **Round trip**: what is printed is parsed to the same item, formatted or not. -/
theorem cJson_parse_print {item : Item} (h : Printable item) (fmt : Bool) :
    cJson_parse (cJson_print realText fmt item) = some (reparsed item) := by
  obtain ⟨b, tail, hprint, hb, -⟩ := exists_printValue realText h fmt 0
  have hskip : skip (printValue realText fmt 0 item) = printValue realText fmt 0 item := by
    rw [hprint]
    exact skip_cons hb tail
  have hparsed : ParsedWhere realText fmt 0 item := parse_printValue item h fmt 0
  have hread := hparsed (2 * (printValue realText fmt 0 item).length + 1) [] stop_nil (by omega)
  rw [List.append_nil] at hread
  rw [cJson_parse, cJson_print, hskip, hread]
  rfl

end

/-! ## Bytes of an unformatted text -/

section

variable {realText : ℚ → List UInt8}

def Visible (s : List UInt8) : Prop := ∀ b ∈ s, 32 ≤ b

instance (s : List UInt8) : Decidable (Visible s) := List.decidableBAll _ s

theorem visible_nil : Visible [] := List.forall_mem_nil _

theorem Visible.append {s t : List UInt8} (hs : Visible s) (ht : Visible t) : Visible (s ++ t) :=
  List.forall_mem_append.mpr ⟨hs, ht⟩

theorem Visible.cons {b : UInt8} {s : List UInt8} (hb : 32 ≤ b) (hs : Visible s) :
    Visible (b :: s) := List.forall_mem_cons.mpr ⟨hb, hs⟩

theorem visible_decimal (z : Int) : Visible (decimal z) := by
  have hdigits : Visible (decimalNat z.natAbs) := by
    intro b hb
    apply UInt8.le_iff_toNat_le.mpr
    show 32 ≤ b.toNat
    have hdigit := (isDigit_iff.mp (forall_mem_decimalNat b hb)).1
    omega
  rw [decimal]
  split
  · exact hdigits.cons (by decide)
  · exact hdigits

/-- The control characters, a quote and a backslash. -/
theorem visible_controlEscape :
    (∀ b : Fin 32, Visible (escape (UInt8.ofNat b))) ∧ Visible (escape quote) ∧
      Visible (escape backslash) := by
  decide

theorem visible_escape (b : UInt8) : Visible (escape b) := by
  obtain ⟨hcontrols, hquote, hbackslash⟩ := visible_controlEscape
  by_cases hcontrol : b.toNat < 32
  · have hb := hcontrols ⟨b.toNat, hcontrol⟩
    rwa [UInt8.ofNat_toNat] at hb
  have hle : 32 ≤ b := UInt8.le_iff_toNat_le.mpr (not_lt.mp hcontrol)
  by_cases hbq : b = quote
  · rwa [hbq]
  by_cases hbb : b = backslash
  · rwa [hbb]
  have hplain : escape b = [b] := if_pos ⟨hle, hbq, hbb⟩
  rw [hplain]
  exact List.forall_mem_singleton.mpr hle

theorem visible_printString (s : List UInt8) : Visible (printString s) := by
  have hescaped : Visible (s.flatMap escape) := by
    intro b hb
    obtain ⟨c, -, hc⟩ := List.mem_flatMap.mp hb
    exact visible_escape c b hc
  have hquote : Visible [quote] := by decide
  exact (hescaped.append hquote).cons (by decide)

/-- The texts that are always the same. -/
theorem visible_words :
    Visible (ascii "null") ∧ Visible (ascii "false") ∧ Visible (ascii "true") ∧
      Visible (ascii "[]") ∧ Visible (ascii "{}") := by
  decide

mutual

theorem visible_printValue (item : Item) (h : Printable item) (depth : Nat) :
    Visible (printValue realText false depth item) := by
  obtain ⟨hnull, hfalse, htrue, harray, hobject⟩ := visible_words
  match item with
  | .null => exact hnull
  | .false => exact hfalse
  | .true => exact htrue
  | .number valueint valuedouble =>
      obtain ⟨z, rfl, hz⟩ := h
      rw [printValue, printNumber_intCast realText valueint hz]
      exact visible_decimal z
  | .string s => exact visible_printString s
  | .array [] => exact harray
  | .array (item :: items) =>
      have hitem := visible_printValue item h.1 (depth + 1)
      have hitems := visible_printItems items h.2 (depth + 1)
      have hclose : Visible [0x5d] := List.forall_mem_singleton.mpr (by decide)
      exact ((hitem.append hitems).append hclose).cons (by decide)
  | .object [] => exact hobject
  | .object ((name, item) :: members) =>
      have hitem := visible_printValue item h.2.1 (depth + 1)
      have hmembers := visible_printMembers members h.2.2 (depth + 1)
      have hclose : Visible [0x7d] := List.forall_mem_singleton.mpr (by decide)
      have hentry := ((visible_printString name).append (hitem.cons (b := 0x3a) (by decide)))
      have htext := (((hentry.append hmembers).append hclose).cons (b := 0x7b) (by decide))
      simpa [printValue, newline, tabs] using htext

theorem visible_printItems (items : List Item) (h : PrintableItems items) (depth : Nat) :
    Visible (printItems realText false depth items) := by
  match items with
  | [] => exact visible_nil
  | item :: items =>
      have hitem := visible_printValue item h.1 depth
      have hitems := visible_printItems items h.2 depth
      exact (hitem.append hitems).cons (by decide)

theorem visible_printMembers (members : List (List UInt8 × Item)) (h : PrintableMembers members)
    (depth : Nat) : Visible (printMembers realText false depth members) := by
  match members with
  | [] => exact visible_nil
  | (name, item) :: members =>
      have hitem := visible_printValue item h.2.1 depth
      have hmembers := visible_printMembers members h.2.2 depth
      have hentry := ((visible_printString name).append (hitem.cons (b := 0x3a) (by decide)))
      have htext := (hentry.append hmembers).cons (b := 0x2c) (by decide)
      simpa [printMembers, newline, tabs] using htext

end

/-- No control characters are left in an unformatted text. -/
theorem visible_cJson_print {item : Item} (h : Printable item) :
    Visible (cJson_print realText false item) := visible_printValue item h 0

end

end CJsonText

end V2XHub.Tmx
