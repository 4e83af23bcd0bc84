import Mathlib.Algebra.Group.Nat.Defs
import V2XHub.Priority.Processor

/-!
# The service request, written and read

`encodeServiceRequest` writes the table for the controller, and `decodeCoServiceResponse` reads what
the controller keeps of it. Both compute the place of every field by hand; here they are shown to
agree on all of them.
-/

namespace V2XHub.Priority

/-! ## Times -/

/-- Four bytes side by side do not overlap. -/
theorem or_bytes {a b c d : Nat} (hb : b < 2 ^ 8) (hc : c < 2 ^ 8) (hd : d < 2 ^ 8) :
    (a <<< 24 ||| b <<< 16 ||| c <<< 8 ||| d) = a * 2 ^ 24 + b * 2 ^ 16 + c * 2 ^ 8 + d := by
  have hab : a <<< 24 ||| b <<< 16 = (a * 2 ^ 8 + b) <<< 16 := by
    rw [← Nat.shiftLeft_add_eq_or_of_lt (by rw [Nat.shiftLeft_eq]; omega)]
    simp only [Nat.shiftLeft_eq]
    omega
  have habc : (a * 2 ^ 8 + b) <<< 16 ||| c <<< 8 = ((a * 2 ^ 8 + b) * 2 ^ 8 + c) <<< 8 := by
    rw [← Nat.shiftLeft_add_eq_or_of_lt (by rw [Nat.shiftLeft_eq]; omega)]
    simp only [Nat.shiftLeft_eq]
    omega
  rw [hab, habc, ← Nat.shiftLeft_add_eq_or_of_lt hd]
  simp only [Nat.shiftLeft_eq]
  omega

/-- A byte moved up inside 32 bits loses nothing. -/
theorem toNat_shiftByte (b : UInt8) {k : UInt32} (hk : k.toNat ≤ 24) :
    (b.toUInt32 <<< k).toNat = b.toNat <<< k.toNat := by
  have hfits : b.toNat <<< k.toNat < 2 ^ 32 := by
    rw [Nat.shiftLeft_eq]
    calc b.toNat * 2 ^ k.toNat
        < 2 ^ 8 * 2 ^ k.toNat := Nat.mul_lt_mul_of_pos_right b.toNat_lt (Nat.two_pow_pos _)
      _ ≤ 2 ^ 8 * 2 ^ 24 := Nat.mul_le_mul_left _ (Nat.pow_le_pow_right (by omega) hk)
  rw [UInt32.toNat_shiftLeft, UInt8.toNat_toUInt32, Nat.mod_eq_of_lt (a := k.toNat) (by omega),
    Nat.mod_eq_of_lt hfits]

/-- What `read32` makes of four bytes. -/
theorem toNat_read32 {data : List UInt8} {offset : Nat} {a b c d : UInt8}
    (ha : data.getD offset 0 = a) (hb : data.getD (offset + 1) 0 = b)
    (hc : data.getD (offset + 2) 0 = c) (hd : data.getD (offset + 3) 0 = d) :
    (read32 data offset).toNat =
      a.toNat * 2 ^ 24 + b.toNat * 2 ^ 16 + c.toNat * 2 ^ 8 + d.toNat := by
  unfold read32
  rw [ha, hb, hc, hd, UInt32.toNat_or, UInt32.toNat_or, UInt32.toNat_or,
    toNat_shiftByte a (by decide), toNat_shiftByte b (by decide), toNat_shiftByte c (by decide),
    UInt8.toNat_toUInt32]
  exact or_bytes b.toNat_lt c.toNat_lt d.toNat_lt

/-- A time that lies in the data as `be32` writes it is read back. -/
theorem read32_be32 {data : List UInt8} {offset : Nat} {x : UInt32}
    (h : ∀ k < 4, data[offset + k]? = (be32 x)[k]?) : read32 data offset = x := by
  have hbyte {k : Nat} {b : UInt8} (hk : k < 4) (hb : (be32 x)[k]? = some b) :
      data.getD (offset + k) 0 = b := by
    rw [List.getD_eq_getElem?_getD, h k hk, hb, Option.getD_some]
  have hfirst : data.getD offset 0 = (x >>> 24).toUInt8 := hbyte (k := 0) (by omega) rfl
  apply UInt32.toNat_inj.mp
  rw [toNat_read32 hfirst (hbyte (k := 1) (by omega) rfl) (hbyte (k := 2) (by omega) rfl)
    (hbyte (k := 3) (by omega) rfl)]
  have hx := x.toNat_lt
  have h24 : (24 : UInt32).toNat % 32 = 24 := rfl
  have h16 : (16 : UInt32).toNat % 32 = 16 := rfl
  have h8 : (8 : UInt32).toNat % 32 = 8 := rfl
  simp only [UInt32.toNat_toUInt8, UInt32.toNat_shiftRight, h24, h16, h8,
    Nat.shiftRight_eq_div_pow]
  omega

/-! ## Rows -/

/-- What a row of the table says to the controller. -/
def PriorityRequestEntry.serviceRow (entry : PriorityRequestEntry) : CoServiceResponseRow where
  strategyRequested := entry.serviceStrategyNumber
  requestedTimeOfServiceDesired := entry.timeOfServiceDesiredInPRS
  requestedTimeOfEstimatedDeparture := entry.timeOfEstimatedDepartureInPRS
  requestStatusInCO := entry.statusInPRS

/-- Byte `k` of row `i` of the payload. -/
theorem PriorityTable.getElem?_encodeServiceRequest (t : PriorityTable) (prsBusy : Bool)
    {i k : Nat} {e : PriorityRequestEntry} (he : t.rows[i]? = some e)
    (hk : k < serviceRequestRowSize) :
    (t.encodeServiceRequest prsBusy)[i * serviceRequestRowSize + k]? = (encodeRow e)[k]? := by
  have hrows := Lib.getElem?_flatMap length_encodeRow (l := t.rows) (i := i) hk
  rw [he, Option.bind_some] at hrows
  have hlt : i * serviceRequestRowSize + k < (t.rows.flatMap encodeRow).length := by
    have hbyte : (encodeRow e)[k]? = some _ := List.getElem?_eq_getElem hk
    rw [hbyte] at hrows
    exact (List.getElem?_eq_some_iff.mp hrows).1
  unfold PriorityTable.encodeServiceRequest
  rw [List.append_assoc, List.getElem?_append_left hlt, hrows]

theorem PriorityTable.decodeRow_encodeServiceRequest (t : PriorityTable) (prsBusy : Bool) {i : Nat}
    {e : PriorityRequestEntry} (he : t.rows[i]? = some e) :
    decodeRow (t.encodeServiceRequest prsBusy) i = e.serviceRow := by
  have hbyte (k : Nat) (hk : k < serviceRequestRowSize) :=
    t.getElem?_encodeServiceRequest prsBusy he hk
  have hget {k : Nat} {b : UInt8} (hk : k < serviceRequestRowSize)
      (hb : (encodeRow e)[k]? = some b) :
      (t.encodeServiceRequest prsBusy).getD (i * serviceRequestRowSize + k) 0 = b := by
    rw [List.getD_eq_getElem?_getD, hbyte k hk, hb, Option.getD_some]
  have hdesired : read32 (t.encodeServiceRequest prsBusy) (i * serviceRequestRowSize + 1) =
      e.timeOfServiceDesiredInPRS := by
    refine read32_be32 fun k hk => ?_
    rw [Nat.add_assoc, hbyte (1 + k) (by rw [serviceRequestRowSize]; omega)]
    obtain rfl | rfl | rfl | rfl : k = 0 ∨ k = 1 ∨ k = 2 ∨ k = 3 := by omega
    all_goals rfl
  have hdeparture : read32 (t.encodeServiceRequest prsBusy) (i * serviceRequestRowSize + 5) =
      e.timeOfEstimatedDepartureInPRS := by
    refine read32_be32 fun k hk => ?_
    rw [Nat.add_assoc, hbyte (5 + k) (by rw [serviceRequestRowSize]; omega)]
    obtain rfl | rfl | rfl | rfl : k = 0 ∨ k = 1 ∨ k = 2 ∨ k = 3 := by omega
    all_goals rfl
  have hstrategy : (t.encodeServiceRequest prsBusy).getD (i * serviceRequestRowSize) 0 =
      e.serviceStrategyNumber := hget (k := 0) (by decide) rfl
  have hstatus := hget (k := 9) (by decide) rfl
  unfold decodeRow PriorityRequestEntry.serviceRow
  simp only []
  rw [hdesired, hdeparture, hstrategy, hstatus, RequestStatus.ofByte_toByte]

/-! ## The payload -/

theorem length_flatMap_encodeRow (rows : List PriorityRequestEntry) :
    (rows.flatMap encodeRow).length = rows.length * serviceRequestRowSize := by
  induction rows with
  | nil => rfl
  | cons e rows ih =>
      rw [List.flatMap_cons, List.length_append, ih, length_encodeRow, List.length_cons,
        Nat.succ_mul, Nat.add_comm]

theorem PriorityTable.length_encodeServiceRequest (t : PriorityTable) (prsBusy : Bool) :
    (t.encodeServiceRequest prsBusy).length = serviceRequestSize := by
  unfold PriorityTable.encodeServiceRequest
  rw [List.length_append, List.length_append, length_flatMap_encodeRow, t.length_rows]
  rfl

/-- The byte behind the rows is the flag. -/
theorem PriorityTable.busy_encodeServiceRequest (t : PriorityTable) (prsBusy : Bool) :
    (t.encodeServiceRequest prsBusy).getD serviceRequestBusyOffset 0 =
      if prsBusy then 1 else 0 := by
  have hlen : (t.rows.flatMap encodeRow).length = serviceRequestBusyOffset := by
    rw [length_flatMap_encodeRow, t.length_rows]
    rfl
  unfold PriorityTable.encodeServiceRequest
  rw [List.append_assoc, List.getD_eq_getElem?_getD, List.getElem?_append_right hlen.le, hlen,
    Nat.sub_self]
  rfl

/-- Reading what was written gives every row and the flag. -/
theorem PriorityTable.decode_encode (t : PriorityTable) (prsBusy : Bool) :
    decodeCoServiceResponse (t.encodeServiceRequest prsBusy) =
      some (t.rows.map PriorityRequestEntry.serviceRow, prsBusy) := by
  have hrows : (List.range maxServiceRequests).map
      (decodeRow (t.encodeServiceRequest prsBusy)) =
      t.rows.map PriorityRequestEntry.serviceRow := by
    apply List.ext_getElem?
    intro i
    rw [List.getElem?_map, List.getElem?_map]
    rcases lt_or_ge i maxServiceRequests with hi | hi
    · have hrow : t.rows[i]? = some (t.rows.get ⟨i, t.length_rows.symm ▸ hi⟩) :=
        List.getElem?_eq_getElem _
      rw [List.getElem?_range hi, hrow, Option.map_some, Option.map_some,
        t.decodeRow_encodeServiceRequest prsBusy hrow]
    · rw [List.getElem?_eq_none (by rwa [List.length_range]),
        List.getElem?_eq_none (by rwa [t.length_rows])]
      rfl
  unfold decodeCoServiceResponse
  rw [if_neg (by rw [t.length_encodeServiceRequest]; exact lt_irrefl _), hrows,
    t.busy_encodeServiceRequest]
  cases prsBusy <;> rfl

/-- What is written of a row is what the row says to the controller. -/
theorem encodeRow_congr {e e' : PriorityRequestEntry} (h : e.serviceRow = e'.serviceRow) :
    encodeRow e = encodeRow e' := by
  obtain ⟨hstrategy, hdesired, hdeparture, hstatus⟩ := CoServiceResponseRow.mk.inj h
  unfold encodeRow
  rw [hstrategy, hdesired, hdeparture, hstatus]

theorem flatMap_encodeRow_congr {rows rows' : List PriorityRequestEntry}
    (h : rows.map PriorityRequestEntry.serviceRow = rows'.map PriorityRequestEntry.serviceRow) :
    rows.flatMap encodeRow = rows'.flatMap encodeRow := by
  induction rows generalizing rows' with
  | nil =>
      rw [List.map_eq_nil_iff.mp h.symm]
  | cons e rows ih =>
      cases rows' with
      | nil => cases h
      | cons e' rows' =>
          obtain ⟨hhead, htail⟩ := List.cons.inj h
          rw [List.flatMap_cons, List.flatMap_cons, encodeRow_congr hhead, ih htail]

/-- **The codec**: what is written is read back, so one payload stands for one set of rows and one
flag. A `SET` left out because the payload is the one sent before loses nothing. -/
theorem serviceRequest_codec (t : PriorityTable) (prsBusy : Bool) :
    decodeCoServiceResponse (t.encodeServiceRequest prsBusy) =
        some (t.rows.map PriorityRequestEntry.serviceRow, prsBusy) ∧
      ∀ (t' : PriorityTable) (prsBusy' : Bool),
        t.encodeServiceRequest prsBusy = t'.encodeServiceRequest prsBusy' ↔
          t.rows.map PriorityRequestEntry.serviceRow =
              t'.rows.map PriorityRequestEntry.serviceRow ∧
            prsBusy = prsBusy' := by
  refine ⟨t.decode_encode prsBusy, fun t' prsBusy' => ⟨fun h => ?_, fun ⟨hrows, hbusy⟩ => ?_⟩⟩
  · have hread := t.decode_encode prsBusy
    rw [h, t'.decode_encode prsBusy'] at hread
    obtain ⟨hrows, hbusy⟩ := Prod.mk.inj (Option.some.inj hread)
    exact ⟨hrows.symm, hbusy.symm⟩
  · unfold PriorityTable.encodeServiceRequest
    rw [flatMap_encodeRow_congr hrows, hbusy]

end V2XHub.Priority
