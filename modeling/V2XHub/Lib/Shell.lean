import Mathlib.Data.List.Infix
import Mathlib.Data.List.TakeWhile

/-!
# Texts in single quotes

How a shell goes through the bytes of a command: what it takes literally and what it interprets. A
text that is pasted between single quotes stays in them exactly if it has no single quote and the
command does not end in it, as a C string does at a NUL.
-/

namespace V2XHub.Lib.Shell

/-- What a shell is in. -/
inductive Quoting where
  | unquoted
  | single
  | double
  /-- Behind a backslash, outside of quotes or inside double ones. -/
  | escaped (inDouble : Bool)
  deriving DecidableEq, Repr

def singleQuote : UInt8 := 0x27
def doubleQuote : UInt8 := 0x22
def backslash : UInt8 := 0x5c

def Quoting.next : Quoting → UInt8 → Quoting
  | .unquoted, b =>
      if b = singleQuote then .single
      else if b = doubleQuote then .double
      else if b = backslash then .escaped false
      else .unquoted
  | .single, b => if b = singleQuote then .unquoted else .single
  | .double, b =>
      if b = doubleQuote then .unquoted
      else if b = backslash then .escaped true
      else .double
  | .escaped inDouble, _ => if inDouble then .double else .unquoted

/-- What a shell is in behind a text. -/
def quoting (text : List UInt8) (q : Quoting) : Quoting := text.foldl Quoting.next q

/-- The text stands in the command within one word in single quotes: the shell is in them before it
and behind each byte of it, and they are closed later. -/
def SingleQuoted (command text : List UInt8) : Prop :=
  ∃ before after, command = before ++ text ++ after ∧
    (∀ read, read <+: text → quoting (before ++ read) .unquoted = .single) ∧ singleQuote ∈ after

/-- The bytes of a C string. -/
def cString (text : List UInt8) : List UInt8 := text.takeWhile (· ≠ 0)

variable {before text after : List UInt8}

theorem quoting_append (text text' : List UInt8) (q : Quoting) :
    quoting (text ++ text') q = quoting text' (quoting text q) := List.foldl_append

theorem quoting_single (h : singleQuote ∉ text) : quoting text .single = .single := by
  induction text with
  | nil => rfl
  | cons b text ih =>
      obtain ⟨hb, htext⟩ := not_or.mp (List.mem_cons.not.mp h)
      show quoting text (Quoting.next .single b) = .single
      rw [Quoting.next, if_neg (Ne.symm hb), ih htext]

theorem cString_eq_self (h : 0 ∉ text) : cString text = text := by
  apply List.takeWhile_eq_self_iff.mpr
  intro b hb
  rw [decide_eq_true_eq]
  rintro rfl
  exact h hb

theorem not_mem_cString (text : List UInt8) : 0 ∉ cString text := by
  intro h
  exact absurd (List.mem_takeWhile_imp h) (by decide)

/-- **A text pasted between single quotes**, in a command that is passed as a C string. -/
theorem singleQuoted_iff (hbefore : quoting before .unquoted = .single)
    (hzero : 0 ∉ before) (hquote : singleQuote ∈ after) (hzero' : 0 ∉ after) :
    SingleQuoted (cString (before ++ text ++ after)) text ↔ singleQuote ∉ text ∧ 0 ∉ text := by
  constructor
  · rintro ⟨before', after', hcommand, hread, -⟩
    refine ⟨fun hmem => ?_, fun hmem => ?_⟩
    · -- the quote is left at a single quote
      obtain ⟨read, rest, rfl⟩ := List.append_of_mem hmem
      have hin : quoting (before' ++ read) .unquoted = .single :=
        hread read (List.prefix_append _ _)
      have hout : quoting (before' ++ (read ++ [singleQuote])) .unquoted = .single := by
        apply hread
        exact ⟨rest, List.append_assoc read [singleQuote] rest⟩
      rw [← List.append_assoc, quoting_append, hin] at hout
      cases hout
    · have hall : 0 ∈ cString (before ++ text ++ after) := by
        rw [hcommand]
        exact List.mem_append_left _ (List.mem_append_right _ hmem)
      exact not_mem_cString _ hall
  · rintro ⟨hnone, hnul⟩
    have hcommand : 0 ∉ before ++ text ++ after := by
      simp only [List.mem_append, not_or]
      exact ⟨⟨hzero, hnul⟩, hzero'⟩
    refine ⟨before, after, cString_eq_self hcommand, ?_, hquote⟩
    intro read hread
    rw [quoting_append, hbefore]
    exact quoting_single fun hmem => hnone (hread.subset hmem)

end V2XHub.Lib.Shell
