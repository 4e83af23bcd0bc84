import Mathlib.Data.List.Induction
import Mathlib.Data.List.TakeWhile
import Mathlib.Data.Nat.Digits.Defs
import V2XHub.Validation.Fields

/-!
# Numbers and booleans in strings

A string is to become the integer it denotes where the schema has an integer. `tryConvertToInt`
leaves that to `strtoll`, of which it checks only how far it read: a number outside 64 bits is cut
off at the bounds, and what follows a NUL in the string is not seen.

**Main result** `numericStrings_converted_iff`: exactly which documents are converted as they
should be.
-/

namespace V2XHub.Validation

namespace Json

/-! ## What a string denotes -/

def digitValue (c : Char) : Nat := c.toNat - '0'.toNat

/-- The number of a run of digits, however long. -/
def digitsValue (digits : List Char) : Nat := Nat.ofDigits 10 (digits.map digitValue).reverse

/-- The whole string is the numeral of the number: digits after an optional sign, with white space
allowed in front. -/
def Denotes (s : String) (n : Int) : Prop :=
  ∃ spaces sign digits : List Char, s.toList = spaces ++ sign ++ digits ∧
    (∀ c ∈ spaces, isSpace c) ∧ digits ≠ [] ∧ (∀ c ∈ digits, c.isDigit) ∧
      ((sign = [] ∨ sign = ['+']) ∧ n = digitsValue digits ∨
        sign = ['-'] ∧ n = -digitsValue digits)

/-- A number of 64 bits. -/
def InRange64 (n : Int) : Prop := -9223372036854775808 ≤ n ∧ n ≤ 9223372036854775807

/-- A string that denotes a number as a C string denotes one of 64 bits as a whole. -/
def Exact (s : String) : Prop := ∀ n, Denotes (cString s) n → cString s = s ∧ InRange64 n

/-! ## What `strtoll` reads -/

theorem foldl_digits (digits : List Char) :
    digits.foldl (fun (n : Int) c => 10 * n + (c.toNat - '0'.toNat : Nat)) 0 =
      digitsValue digits := by
  induction digits using List.reverseRecOn with
  | nil => rfl
  | append_singleton digits c ih =>
      have hlast : digitsValue (digits ++ [c]) = digitValue c + 10 * digitsValue digits := by
        unfold digitsValue
        rw [List.map_append, List.reverse_append, List.map_singleton, List.reverse_singleton,
          List.singleton_append, Nat.ofDigits_cons]
      rw [List.foldl_append, ih, hlast]
      exact add_comm (10 * (digitsValue digits : Int)) (digitValue c)

/-- The number nearest to `n` in 64 bits. -/
def clamp (n : Int) : Int := max (min n 9223372036854775807) (-9223372036854775808)

theorem clamp_of_inRange {n : Int} (h : InRange64 n) : clamp n = n := by
  unfold clamp
  rw [min_eq_left h.2, max_eq_left h.1]

theorem inRange_clamp (n : Int) : InRange64 (clamp n) := by
  unfold InRange64 clamp
  omega

theorem decimal_eq (negative : Bool) (digits : List Char) :
    decimal negative digits =
      clamp (if negative then -(digitsValue digits : Int) else digitsValue digits) := by
  unfold decimal clamp
  simp only [foldl_digits]
  cases negative with
  | true =>
      rw [if_pos rfl, if_pos rfl]
      omega
  | false =>
      rw [if_neg Bool.false_ne_true, if_neg Bool.false_ne_true]
      omega

/-- Digits after their sign. -/
def unsigned (negative : Bool) (digits : List Char) : Option Int :=
  if digits ≠ [] ∧ digits.all Char.isDigit then
    some (if negative then -(digitsValue digits : Int) else digitsValue digits)
  else none

def signed : List Char → Option Int
  | '-' :: digits => unsigned true digits
  | '+' :: digits => unsigned false digits
  | digits => unsigned false digits

theorem signed_cons {c : Char} (hminus : c ≠ '-') (hplus : c ≠ '+') (rest : List Char) :
    signed (c :: rest) = unsigned false (c :: rest) := by
  unfold signed
  split
  · next heq => exact absurd (List.cons.inj heq).1 hminus
  · next heq => exact absurd (List.cons.inj heq).1 hplus
  · rfl

/-- What `strtoll` reads, without the bounds. -/
def numeral (s : String) : Option Int := signed (s.toList.dropWhile isSpace)

theorem map_clamp_unsigned (negative : Bool) (digits : List Char) :
    (if digits ≠ [] ∧ digits.all Char.isDigit then some (decimal negative digits) else none) =
      (unsigned negative digits).map clamp := by
  rw [decimal_eq]
  unfold unsigned
  rw [apply_ite (Option.map clamp)]
  rfl

theorem strtoll_eq (s : String) : strtoll s = (numeral (cString s)).map clamp := by
  unfold strtoll numeral
  generalize (cString s).toList.dropWhile isSpace = rest
  rcases rest with - | ⟨c, rest⟩
  · exact map_clamp_unsigned false []
  · by_cases hminus : c = '-'
    · rw [hminus]
      exact map_clamp_unsigned true rest
    by_cases hplus : c = '+'
    · rw [hplus]
      exact map_clamp_unsigned false rest
    rw [signed_cons hminus hplus]
    simp only
    split
    · next heq => exact absurd (List.cons.inj heq).1 hminus
    · next heq => exact absurd (List.cons.inj heq).1 hplus
    · exact map_clamp_unsigned false (c :: rest)

theorem isSpace_iff {c : Char} : isSpace c = true ↔ c.toNat = 32 ∨ 9 ≤ c.toNat ∧ c.toNat ≤ 13 := by
  unfold isSpace
  rw [Bool.or_eq_true, Bool.and_eq_true, decide_eq_true_eq, decide_eq_true_eq, decide_eq_true_eq]
  refine or_congr ⟨fun h => by rw [h]; rfl, fun h => Char.toNat_inj.mp h⟩ Iff.rfl

theorem isDigit_iff {c : Char} : c.isDigit = true ↔ 48 ≤ c.toNat ∧ c.toNat ≤ 57 := by
  unfold Char.isDigit
  rw [Bool.and_eq_true, decide_eq_true_eq, decide_eq_true_eq]
  exact Iff.rfl

theorem dropWhile_isSpace {spaces rest : List Char} (hspaces : ∀ c ∈ spaces, isSpace c = true)
    (hrest : ∀ c ∈ rest.head?, isSpace c = false) :
    (spaces ++ rest).dropWhile isSpace = rest := by
  rw [List.dropWhile_append_of_pos hspaces]
  cases rest with
  | nil => rfl
  | cons c rest => exact List.dropWhile_cons_of_neg (by rw [hrest c rfl]; exact Bool.false_ne_true)

theorem numeral_of_denotes {s : String} {n : Int} (h : Denotes s n) : numeral s = some n := by
  obtain ⟨spaces, sign, digits, hs, hspaces, hne, hdigits, hsign⟩ := h
  obtain ⟨c, rest, rfl⟩ := List.exists_cons_of_ne_nil hne
  have hc := isDigit_iff.mp (hdigits c (.head _))
  have hall : (c :: rest).all Char.isDigit = true := List.all_eq_true.mpr hdigits
  have hdrop : s.toList.dropWhile isSpace = sign ++ c :: rest := by
    rw [hs, List.append_assoc]
    refine dropWhile_isSpace hspaces fun first hfirst => Bool.eq_false_iff.mpr fun hspace => ?_
    have hfirstSpace := isSpace_iff.mp hspace
    rcases hsign with ⟨rfl | rfl, -⟩ | ⟨rfl, -⟩
    · cases hfirst
      omega
    · cases hfirst
      exact absurd hspace (by decide)
    · cases hfirst
      exact absurd hspace (by decide)
  unfold numeral
  rw [hdrop]
  rcases hsign with ⟨rfl | rfl, rfl⟩ | ⟨rfl, rfl⟩
  · -- a digit is no sign
    have hminus : c ≠ '-' := fun heq => by
      rw [heq] at hc
      exact absurd hc.1 (by decide)
    have hplus : c ≠ '+' := fun heq => by
      rw [heq] at hc
      exact absurd hc.1 (by decide)
    rw [List.nil_append, signed_cons hminus hplus]
    exact if_pos ⟨hne, hall⟩
  · exact if_pos ⟨hne, hall⟩
  · exact if_pos ⟨hne, hall⟩

theorem of_unsigned {negative : Bool} {digits : List Char} {n : Int}
    (h : unsigned negative digits = some n) :
    digits ≠ [] ∧ (∀ c ∈ digits, c.isDigit) ∧
      n = if negative then -(digitsValue digits : Int) else digitsValue digits := by
  have hdigits : digits ≠ [] ∧ digits.all Char.isDigit := by
    by_contra hnot
    rw [unsigned, if_neg hnot] at h
    cases h
  rw [unsigned, if_pos hdigits] at h
  exact ⟨hdigits.1, List.all_eq_true.mp hdigits.2, (Option.some.inj h).symm⟩

theorem of_signed {rest : List Char} {n : Int} (h : signed rest = some n) :
    ∃ sign digits : List Char, rest = sign ++ digits ∧ digits ≠ [] ∧ (∀ c ∈ digits, c.isDigit) ∧
      ((sign = [] ∨ sign = ['+']) ∧ n = digitsValue digits ∨
        sign = ['-'] ∧ n = -digitsValue digits) := by
  unfold signed at h
  split at h
  · obtain ⟨hne, hdigits, hn⟩ := of_unsigned h
    exact ⟨['-'], _, rfl, hne, hdigits, .inr ⟨rfl, hn⟩⟩
  · obtain ⟨hne, hdigits, hn⟩ := of_unsigned h
    exact ⟨['+'], _, rfl, hne, hdigits, .inl ⟨.inr rfl, hn⟩⟩
  · obtain ⟨hne, hdigits, hn⟩ := of_unsigned h
    exact ⟨[], _, rfl, hne, hdigits, .inl ⟨.inl rfl, hn⟩⟩

theorem numeral_eq_some_iff {s : String} {n : Int} : numeral s = some n ↔ Denotes s n := by
  refine ⟨fun h => ?_, numeral_of_denotes⟩
  obtain ⟨sign, digits, hrest, hne, hdigits, hsign⟩ := of_signed h
  refine ⟨s.toList.takeWhile isSpace, sign, digits, ?_, ?_, hne, hdigits, hsign⟩
  · rw [List.append_assoc, ← hrest, List.takeWhile_append_dropWhile]
  · exact fun c hc => List.mem_takeWhile_imp hc

/-- There is no NUL in a numeral. -/
theorem cString_of_denotes {s : String} {n : Int} (h : Denotes s n) : cString s = s := by
  obtain ⟨spaces, sign, digits, hs, hspaces, -, hdigits, hsign⟩ := h
  have hsigns : ∀ c ∈ sign, c ≠ '\x00' := by
    rcases hsign with ⟨rfl | rfl, -⟩ | ⟨rfl, -⟩
    · exact List.forall_mem_nil _
    · exact List.forall_mem_singleton.mpr (by decide)
    · exact List.forall_mem_singleton.mpr (by decide)
  have hall : ∀ c ∈ s.toList, (c ≠ '\x00' : Bool) = true := by
    rw [hs]
    intro c hc
    refine decide_eq_true fun heq => ?_
    rcases List.mem_append.mp hc with hc | hc
    · rcases List.mem_append.mp hc with hc | hc
      · exact absurd (heq ▸ hspaces c hc) (by decide)
      · exact hsigns c hc heq
    · exact absurd (heq ▸ hdigits c hc) (by decide)
  unfold cString
  rw [List.takeWhile_eq_self_iff.mpr hall, String.ofList_toList]

/-- What is read is what the string denotes exactly for the strings that are `Exact`. -/
theorem strtoll_denotes_iff (s : String) :
    (∀ n, strtoll s = some n → Denotes s n) ↔ Exact s := by
  rw [strtoll_eq]
  constructor
  · intro h n hn
    rw [← numeral_eq_some_iff] at hn
    -- what is read is in range, and so is the number if they are the same
    have hread := h (clamp n) (by rw [hn]; rfl)
    have hwhole := cString_of_denotes hread
    rw [hwhole, numeral_eq_some_iff.mpr hread, Option.some.injEq] at hn
    exact ⟨hwhole, hn ▸ inRange_clamp n⟩
  · intro h n hn
    obtain ⟨m, hm, rfl⟩ := Option.map_eq_some_iff.mp hn
    have hdenotes := numeral_eq_some_iff.mp hm
    obtain ⟨hwhole, hrange⟩ := h m hdenotes
    rw [clamp_of_inRange hrange, ← hwhole]
    exact hdenotes

theorem inRange_strtoll {s : String} {n : Int} (h : strtoll s = some n) : InRange64 n := by
  rw [strtoll_eq] at h
  obtain ⟨m, -, rfl⟩ := Option.map_eq_some_iff.mp h
  exact inRange_clamp m

/-! ## Conversions -/

mutual

/-- `Converts schema v w`: `w` is `v` with strings turned into the integers they denote at integer
positions, and into booleans at boolean positions; each position has the schema that is reached
for it from `schema`, if any. -/
inductive Converts : Json → Json → Json → Prop
  | same {schema : Json} (v : Json) : Converts schema v v
  | int {schema : Json} {s : String} {n : Int} :
      schemaHasType schema "integer" → Denotes s n → InRange64 n →
        Converts schema (.str s) (.int n)
  | bool {schema : Json} {s : String} (b : Bool) :
      schemaHasType schema "boolean" → Converts schema (.str s) (.bool b)
  | obj {schema : Json} {members members' : Members} :
      ConvertsMembers schema members members' → Converts schema (.obj members) (.obj members')
  | arr {schema itemsSchema : Json} {elements elements' : List Json} :
      getItemsSchema schema = some itemsSchema →
        ConvertsElements itemsSchema elements elements' →
          Converts schema (.arr elements) (.arr elements')

inductive ConvertsMembers : Json → Members → Members → Prop
  | nil {schema : Json} : ConvertsMembers schema [] []
  | same {schema : Json} (m : String × Json) {members members' : Members} :
      ConvertsMembers schema members members' →
        ConvertsMembers schema (m :: members) (m :: members')
  | reached {schema propSchema : Json} {name : String} {value value' : Json}
      {members members' : Members} :
      getPropertySchema schema (cString name) = some propSchema →
        Converts propSchema value value' → ConvertsMembers schema members members' →
          ConvertsMembers schema ((name, value) :: members) ((name, value') :: members')

inductive ConvertsElements : Json → List Json → List Json → Prop
  | nil {schema : Json} : ConvertsElements schema [] []
  | cons {schema v w : Json} {elements elements' : List Json} :
      Converts schema v w → ConvertsElements schema elements elements' →
        ConvertsElements schema (v :: elements) (w :: elements')

end

/-- A property with a schema for integers or booleans that is not a string. It is not looked into.
-/
def skipped (propSchema value : Json) : Bool :=
  (schemaHasType propSchema "integer" || schemaHasType propSchema "boolean") &&
    value.cString?.isNone

/-- The string stands at a position for integers. -/
inductive ReachesInteger : Json → Json → String → Prop
  | here {schema : Json} {s : String} :
      schemaHasType schema "integer" → ReachesInteger schema (.str s) s
  | member {schema propSchema value : Json} {name s : String} {members : Members} :
      (name, value) ∈ members → getPropertySchema schema (cString name) = some propSchema →
        skipped propSchema value = false → ReachesInteger propSchema value s →
          ReachesInteger schema (.obj members) s
  | element {schema itemsSchema v : Json} {s : String} {elements : List Json} :
      getItemsSchema schema = some itemsSchema → v ∈ elements →
        ReachesInteger itemsSchema v s → ReachesInteger schema (.arr elements) s

/-- What becomes of a property. -/
def convertProperty (propSchema value : Json) : Json :=
  if schemaHasType propSchema "integer" then tryConvertToInt value
  else if schemaHasType propSchema "boolean" then tryConvertToBool value
  else convertNumericStrings propSchema value

section

variable {schema propSchema value : Json} {name : String} {members : Members}

theorem convertMembers_cons_of_some
    (h : getPropertySchema schema (cString name) = some propSchema) :
    convertMembers schema ((name, value) :: members) =
      (name, convertProperty propSchema value) :: convertMembers schema members := by
  rw [convertMembers, h]
  rfl

theorem convertMembers_cons_of_none (h : getPropertySchema schema (cString name) = none) :
    convertMembers schema ((name, value) :: members) =
      (name, value) :: convertMembers schema members := by
  rw [convertMembers, h]

/-- A property is converted like any value, unless it is skipped. -/
theorem convertProperty_eq (propSchema value : Json) :
    convertProperty propSchema value =
      if skipped propSchema value then value else convertNumericStrings propSchema value := by
  unfold convertProperty skipped
  cases value with
  | str s =>
      rw [convertNumericStrings, cString?, Option.isNone_some, Bool.and_false,
        if_neg Bool.false_ne_true]
      split_ifs <;> rfl
  | _ =>
      cases schemaHasType propSchema "integer" with
      | true => rfl
      | false => cases schemaHasType propSchema "boolean" <;> rfl

theorem reachesInteger_cons {s : String} :
    ReachesInteger schema (.obj ((name, value) :: members)) s ↔
      (∃ propSchema, getPropertySchema schema (cString name) = some propSchema ∧
        skipped propSchema value = false ∧ ReachesInteger propSchema value s) ∨
      ReachesInteger schema (.obj members) s := by
  constructor
  · intro h
    cases h with
    | member hmem hschema hskipped hreach =>
        rcases List.mem_cons.mp hmem with heq | hmem
        · cases heq
          exact .inl ⟨_, hschema, hskipped, hreach⟩
        · exact .inr (.member hmem hschema hskipped hreach)
  · rintro (⟨propSchema, hschema, hskipped, hreach⟩ | h)
    · exact .member (.head _) hschema hskipped hreach
    · cases h with
      | member hmem hschema hskipped hreach =>
          exact .member (.tail _ hmem) hschema hskipped hreach

end

theorem convertsMembers_refl (schema : Json) : (members : Members) →
    ConvertsMembers schema members members
  | [] => .nil
  | m :: members => .same m (convertsMembers_refl schema members)

theorem convertsElements_refl (schema : Json) : (elements : List Json) →
    ConvertsElements schema elements elements
  | [] => .nil
  | v :: elements => .cons (.same v) (convertsElements_refl schema elements)

theorem converts_str_iff (schema : Json) (s : String) :
    Converts schema (.str s) (convertNumericStrings schema (.str s)) ↔
      ∀ t, ReachesInteger schema (.str s) t → Exact t := by
  have hreach : (∀ t, ReachesInteger schema (.str s) t → Exact t) ↔
      (schemaHasType schema "integer" → Exact s) := by
    constructor
    · exact fun h hinteger => h s (.here hinteger)
    · rintro h t (⟨hinteger⟩ | _ | _)
      exact h hinteger
  rw [hreach, convertNumericStrings]
  split_ifs with hinteger hboolean
  · rw [← strtoll_denotes_iff, tryConvertToInt]
    cases hread : strtoll s with
    | none => exact iff_of_true (.same _) fun _ n hn => nomatch hn
    | some m =>
        constructor
        · intro h _ n hn
          cases hn
          cases h with
          | int _ hdenotes _ => exact hdenotes
        · intro h
          exact .int hinteger (h hinteger m rfl) (inRange_strtoll hread)
  · refine iff_of_true ?_ fun h => absurd h hinteger
    show Converts schema (.str s) (if cString s = "true" then .bool true
      else if cString s = "false" then .bool false else .str s)
    split_ifs
    · exact .bool true hboolean
    · exact .bool false hboolean
    · exact .same _
  · exact iff_of_true (.same _) fun h => absurd h hinteger

section

variable {schema itemsSchema propSchema value value' v w : Json} {name : String}
variable {members members' : Members} {elements elements' : List Json}

theorem converts_obj :
    Converts schema (.obj members) (.obj members') ↔ ConvertsMembers schema members members' := by
  refine ⟨fun h => ?_, .obj⟩
  cases h with
  | same => exact convertsMembers_refl schema members
  | obj h => exact h

theorem converts_arr (hitems : getItemsSchema schema = some itemsSchema) :
    Converts schema (.arr elements) (.arr elements') ↔
      ConvertsElements itemsSchema elements elements' := by
  refine ⟨fun h => ?_, .arr hitems⟩
  cases h with
  | same => exact convertsElements_refl itemsSchema elements
  | arr hitems' h => exact Option.some.inj (hitems'.symm.trans hitems) ▸ h

theorem convertsMembers_cons_of_some
    (hschema : getPropertySchema schema (cString name) = some propSchema) :
    ConvertsMembers schema ((name, value) :: members) ((name, value') :: members') ↔
      Converts propSchema value value' ∧ ConvertsMembers schema members members' := by
  refine ⟨fun h => ?_, fun h => .reached hschema h.1 h.2⟩
  cases h with
  | same _ h => exact ⟨.same value, h⟩
  | reached hschema' hvalue h => exact ⟨Option.some.inj (hschema'.symm.trans hschema) ▸ hvalue, h⟩

theorem convertsMembers_cons_same (m : String × Json) :
    ConvertsMembers schema (m :: members) (m :: members') ↔
      ConvertsMembers schema members members' := by
  refine ⟨fun h => ?_, .same m⟩
  cases h with
  | same _ h => exact h
  | reached _ _ h => exact h

theorem convertsElements_cons :
    ConvertsElements schema (v :: elements) (w :: elements') ↔
      Converts schema v w ∧ ConvertsElements schema elements elements' := by
  refine ⟨fun h => ?_, fun h => .cons h.1 h.2⟩
  cases h with
  | cons hv h => exact ⟨hv, h⟩

end

mutual

/-- The conversion is right exactly when every string at a position for integers is `Exact`. -/
theorem converts_iff : (v schema : Json) →
    (Converts schema v (convertNumericStrings schema v) ↔
      ∀ s, ReachesInteger schema v s → Exact s)
  | .str s, schema => converts_str_iff schema s
  | .obj members, schema => by
      rw [convertNumericStrings, converts_obj]
      exact convertsMembers_iff members schema
  | .arr elements, schema => by
      rw [convertNumericStrings]
      cases hitems : getItemsSchema schema with
      | none =>
          refine iff_of_true (.same _) fun s h => ?_
          cases h with
          | element hsome _ _ => exact nomatch hsome.symm.trans hitems
      | some itemsSchema =>
          simp only
          rw [converts_arr hitems, convertsElements_iff elements itemsSchema]
          constructor
          · intro h s hreach
            cases hreach with
            | element hsome hv hreach =>
                exact h _ hv s (Option.some.inj (hsome.symm.trans hitems) ▸ hreach)
          · intro h v hv s hreach
            exact h s (.element hitems hv hreach)
  | .null, _ | .bool _, _ | .int _, _ | .double _, _ =>
      iff_of_true (.same _) fun _ h => nomatch h

theorem convertsMembers_iff : (members : Members) → (schema : Json) →
    (ConvertsMembers schema members (convertMembers schema members) ↔
      ∀ s, ReachesInteger schema (.obj members) s → Exact s)
  | [], _ => iff_of_true .nil fun _ h => by
      cases h with
      | member hmem _ _ _ => exact nomatch hmem
  | (name, value) :: members, schema => by
      have ih := convertsMembers_iff members schema
      simp only [reachesInteger_cons, or_imp, forall_and]
      cases hschema : getPropertySchema schema (cString name) with
      | none =>
          rw [convertMembers_cons_of_none hschema, convertsMembers_cons_same, ih]
          refine (and_iff_right fun s h => ?_).symm
          obtain ⟨_, hsome, -⟩ := h
          exact nomatch hsome
      | some propSchema =>
          rw [convertMembers_cons_of_some hschema, convertsMembers_cons_of_some hschema, ih,
            convertProperty_eq]
          refine and_congr_left fun _ => ?_
          cases hskipped : skipped propSchema value with
          | true =>
              -- left as it is, and no position is reached through it
              rw [if_pos rfl]
              refine iff_of_true (.same value) fun s h => ?_
              obtain ⟨_, hsome, hnot, -⟩ := h
              rw [← Option.some.inj hsome, hskipped] at hnot
              exact nomatch hnot
          | false =>
              rw [if_neg Bool.false_ne_true, converts_iff value propSchema]
              constructor
              · rintro h s ⟨_, hsome, -, hreach⟩
                exact h s (Option.some.inj hsome ▸ hreach)
              · intro h s hreach
                exact h s ⟨propSchema, rfl, hskipped, hreach⟩

theorem convertsElements_iff : (elements : List Json) → (schema : Json) →
    (ConvertsElements schema elements (convertElements schema elements) ↔
      ∀ v ∈ elements, ∀ s, ReachesInteger schema v s → Exact s)
  | [], _ => iff_of_true .nil (List.forall_mem_nil _)
  | v :: elements, schema => by
      rw [convertElements, convertsElements_cons, List.forall_mem_cons, converts_iff v schema,
        convertsElements_iff elements schema]

end

/-! ## Twice -/

/-- A string stays or is one no more. -/
theorem convertNumericStrings_str (schema : Json) (s : String) :
    convertNumericStrings schema (.str s) = .str s ∨
      (∃ n, convertNumericStrings schema (.str s) = .int n) ∨
      ∃ b, convertNumericStrings schema (.str s) = .bool b := by
  rw [convertNumericStrings]
  split_ifs
  · rw [tryConvertToInt]
    cases strtoll s with
    | none => exact .inl rfl
    | some n => exact .inr (.inl ⟨n, rfl⟩)
  · show (if cString s = "true" then Json.bool true
      else if cString s = "false" then Json.bool false else Json.str s) = .str s ∨ _
    rw [tryConvertToBool]
    split_ifs
    · exact .inr (.inr ⟨true, rfl⟩)
    · exact .inr (.inr ⟨false, rfl⟩)
    · exact .inl rfl
  · exact .inl rfl

theorem convertNumericStrings_str_twice (schema : Json) (s : String) :
    convertNumericStrings schema (convertNumericStrings schema (.str s)) =
      convertNumericStrings schema (.str s) := by
  rcases convertNumericStrings_str schema s with h | ⟨n, h⟩ | ⟨b, h⟩
  · rw [h, h]
  · rw [h]
    rfl
  · rw [h]
    rfl

mutual

theorem convertNumericStrings_twice : (v schema : Json) →
    convertNumericStrings schema (convertNumericStrings schema v) = convertNumericStrings schema v
  | .str s, schema => convertNumericStrings_str_twice schema s
  | .obj members, schema => by
      rw [convertNumericStrings, convertNumericStrings, convertMembers_twice members schema]
  | .arr elements, schema => by
      rw [convertNumericStrings]
      cases hitems : getItemsSchema schema with
      | none =>
          show convertNumericStrings schema (.arr elements) = _
          rw [convertNumericStrings, hitems]
      | some itemsSchema =>
          show convertNumericStrings schema (.arr (convertElements itemsSchema elements)) = _
          rw [convertNumericStrings, hitems]
          exact congrArg Json.arr (convertElements_twice elements itemsSchema)
  | .null, _ | .bool _, _ | .int _, _ | .double _, _ => rfl

theorem convertMembers_twice : (members : Members) → (schema : Json) →
    convertMembers schema (convertMembers schema members) = convertMembers schema members
  | [], _ => rfl
  | (name, value) :: members, schema => by
      have ih := convertMembers_twice members schema
      cases hschema : getPropertySchema schema (cString name) with
      | none =>
          rw [convertMembers_cons_of_none hschema, convertMembers_cons_of_none hschema, ih]
      | some propSchema =>
          have htwice : convertProperty propSchema (convertProperty propSchema value) =
              convertProperty propSchema value := by
            rw [convertProperty_eq propSchema value]
            cases hskipped : skipped propSchema value with
            | true => rw [if_pos rfl, convertProperty_eq, hskipped, if_pos rfl]
            | false =>
                rw [if_neg Bool.false_ne_true, convertProperty_eq,
                  convertNumericStrings_twice value propSchema, ite_self]
          rw [convertMembers_cons_of_some hschema, convertMembers_cons_of_some hschema, ih, htwice]

theorem convertElements_twice : (elements : List Json) → (schema : Json) →
    convertElements schema (convertElements schema elements) = convertElements schema elements
  | [], _ => rfl
  | v :: elements, schema => by
      rw [convertElements, convertElements, convertNumericStrings_twice v schema,
        convertElements_twice elements schema]

end

/-- `convertNumericStrings` turns strings into the integers they denote, all of them of 64 bits, at
integer positions, and into booleans at boolean positions, changes nothing else, and changes nothing
more when it is applied again, exactly when each string at an integer position that is a numeral as
a C string has no NUL in it and is one of a number of 64 bits. -/
theorem numericStrings_converted_iff (schema v : Json) :
    (Converts schema v (convertNumericStrings schema v) ∧
      convertNumericStrings schema (convertNumericStrings schema v) =
        convertNumericStrings schema v) ↔
      ∀ s, ReachesInteger schema v s → Exact s := by
  rw [converts_iff]
  exact and_iff_left (convertNumericStrings_twice v schema)

def idSchema : Json := .obj [("properties", .obj [("id", .obj [("type", .str "integer")])])]

/-- Twenty nines become the greatest number of 64 bits. -/
theorem twenty_nines_converted :
    convertNumericStrings idSchema (.obj [("id", .str "99999999999999999999")]) =
        .obj [("id", .int 9223372036854775807)] ∧
      ¬ Converts idSchema (.obj [("id", .str "99999999999999999999")])
        (convertNumericStrings idSchema (.obj [("id", .str "99999999999999999999")])) := by
  have hid : getPropertySchema idSchema (cString "id") =
      some (.obj [("type", .str "integer")]) := by rfl
  have hread : convertNumericStrings idSchema (.obj [("id", .str "99999999999999999999")]) =
      .obj [("id", .int 9223372036854775807)] := by rfl
  refine ⟨hread, fun h => ?_⟩
  rw [hread, converts_obj, convertsMembers_cons_of_some hid] at h
  cases h.1 with
  | int _ hdenotes _ =>
      have hnumeral := numeral_of_denotes hdenotes
      exact absurd hnumeral (by decide +kernel)

end Json

end V2XHub.Validation
