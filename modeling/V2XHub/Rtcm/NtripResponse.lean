import Mathlib.Algebra.Group.Nat.Defs
import V2XHub.Lib.Shell

/-!
# The response of an NTRIP caster

Until it is connected, `RtcmPlugin::Main` takes a block from the caster for its response, line by
line. The last character of each line is looked at through an index that is computed without a sign,
and so is the place where the last six characters of the first line begin. With debug logging, every
line is also pasted into a shell command.

A read outside of a line gives whatever is in memory there; what a command prints is a parameter as
well.
-/

namespace V2XHub.Rtcm

open V2XHub.Lib V2XHub.Lib.Shell

namespace NtripResponse

/-- `size_t` arithmetic. -/
def sizeSub (n m : Nat) : Nat := (n + 2 ^ 64 - m) % 2 ^ 64

def npos : Nat := 2 ^ 64 - 1

/-- `s.substr(pos, n)`, `none` for `std::out_of_range`. -/
def substr (s : List UInt8) (pos n : Nat) : Option (List UInt8) :=
  if pos ≤ s.length then some ((s.drop pos).take n) else none

/-- `s.erase(pos)` -/
def erase (s : List UInt8) (pos : Nat) : Option (List UInt8) :=
  if pos ≤ s.length then some (s.take pos) else none

/-- `::strncmp(s, t, n) == 0` -/
def strncmp (s t : List UInt8) (n : Nat) : Bool := (cString s).take n = (cString t).take n

def newline : UInt8 := 0x0a
def carriageReturn : UInt8 := 0x0d

/-- `"200 OK"` -/
def ok200 : List UInt8 := [0x32, 0x30, 0x30, 0x20, 0x4f, 0x4b]

/-- `"ICY"` -/
def icy : List UInt8 := [0x49, 0x43, 0x59]

/-- `"echo '"` -/
def echo : List UInt8 := [0x65, 0x63, 0x68, 0x6f, 0x20, singleQuote]

/-- `"' | gpsdecode"` -/
def gpsdecode : List UInt8 :=
  [singleQuote, 0x20, 0x7c, 0x20, 0x67, 0x70, 0x73, 0x64, 0x65, 0x63, 0x6f, 0x64, 0x65]

/-- The lines that `getline` finds, the first of which has begun with `line`. -/
def getlines (line : List UInt8) : List UInt8 → List (List UInt8)
  | [] => if line = [] then [] else [line]
  | b :: block => if b = newline then line :: getlines [] block else getlines (line ++ [b]) block

/-- A character of a line that is looked at. -/
structure Read where
  line : List UInt8
  index : Nat

/-- A command, and the line that is pasted into it. -/
structure Command where
  line : List UInt8
  text : List UInt8
  deriving DecidableEq

/-- What has been done with a block. -/
structure Handled where
  reads : List Read := []
  commands : List Command := []
  logged : List (List UInt8) := []
  response : List (List UInt8) := []
  connected : Bool := false
  /-- The NMEA string is sent to a caster that speaks NTRIP 1.0. -/
  nmeaSent : Bool := false
  /-- An exception has left `Main`. -/
  thrown : Bool := false

namespace Handled

variable (h : Handled)

/-- The last character of a line is looked at. -/
def look (line : List UInt8) : Handled :=
  { h with reads := h.reads ++ [{ line, index := sizeSub line.length 1 }] }

def passTo (line text : List UInt8) : Handled :=
  { h with commands := h.commands ++ [{ line, text }] }

def keep (line output : List UInt8) : Handled :=
  { h with logged := h.logged ++ [line, output], response := h.response ++ [line] }

def throw : Handled := { h with thrown := true }

end Handled

section

variable (outside : UInt8) (popen : List UInt8 → List (List UInt8))

/-- `System::ExecCommand`: `popen` gives the pieces that `fgets` reads of the output. -/
def execCommand (command : List UInt8) : Option (List UInt8) :=
  let result := (popen (cString command)).flatten
  substr result 0 (sizeSub result.length 1)

/-- The line without the carriage return at its end. -/
def stripReturn (line : List UInt8) : Option (List UInt8) :=
  if line.getD (sizeSub line.length 1) outside = carriageReturn then
    erase line (sizeSub line.length 1)
  else some line

/-- The loop over the lines. -/
def readLines (h : Handled) : List (List UInt8) → Handled
  | [] => h
  | line :: lines =>
      match stripReturn outside line with
      | none => (h.look line).throw
      | some stripped =>
          let command := echo ++ stripped ++ gpsdecode
          match execCommand popen command with
          | none => ((h.look line).passTo stripped command).throw
          | some output =>
              readLines (((h.look line).passTo stripped command).keep stripped output) lines

/-- What is made of the end of the first line. -/
def checkFirst (h : Handled) (first : List UInt8) : Option (List UInt8) → Handled
  | none => h.throw
  | some tail =>
      if strncmp ok200 tail 6 then { h with connected := true, nmeaSent := strncmp icy first 3 }
      else { h with connected := false }

/-- Whether the first of at least two lines ends as it should. -/
def checkResponse (h : Handled) : Handled :=
  match h.response with
  | first :: _ :: _ => checkFirst h first (substr first (sizeSub first.length 6) npos)
  | _ => h

/-- A block that is received while the plugin is not connected. -/
def handle (block : List UInt8) : Handled :=
  let h := readLines outside popen {} (getlines [] block)
  if h.thrown then h else checkResponse h

end

/-! ## What should come of it -/

/-- What `recv` puts into the buffer. -/
structure Block where
  bytes : List UInt8
  length_pos : 1 ≤ bytes.length
  length_le : bytes.length ≤ 4000

def withoutReturn (line : List UInt8) : List UInt8 :=
  if line.getLast? = some carriageReturn then line.dropLast else line

/-- No character outside of a line is read, no exception leaves `Main`, the plugin is connected by
the right first line of at least two, and each line stays within its quotes. -/
structure Promised (block : List UInt8) (h : Handled) : Prop where
  inside : ∀ r ∈ h.reads, r.index < r.line.length
  not_thrown : h.thrown = false
  connected : h.connected = true ↔ ∃ first second rest,
    getlines [] block = first :: second :: rest ∧ ok200 <:+ withoutReturn first
  quoted : ∀ c ∈ h.commands, SingleQuoted (cString c.text) c.line

/-- No line is empty or has a single quote or a NUL, and the first of at least two lines has room
for what it should end in. -/
structure Harmless (block : List UInt8) : Prop where
  lines : ∀ line ∈ getlines [] block, line ≠ [] ∧ singleQuote ∉ line ∧ 0 ∉ line
  first : ∀ first second rest, getlines [] block = first :: second :: rest →
    6 ≤ (withoutReturn first).length

/-! ## Parts -/

theorem length_of_mem_getlines {line l : List UInt8} {block : List UInt8}
    (h : l ∈ getlines line block) : l.length ≤ line.length + block.length := by
  induction block generalizing line with
  | nil =>
      rw [getlines] at h
      split at h
      · cases h
      · rw [List.mem_singleton.mp h]
        exact Nat.le_refl _
  | cons b block ih =>
      rw [List.length_cons]
      rw [getlines] at h
      split at h
      · rcases List.mem_cons.mp h with rfl | h
        · omega
        · have hle := ih h
          rw [List.length_nil] at hle
          omega
      · have hle := ih h
        rw [List.length_append, List.length_singleton] at hle
        omega

theorem Block.length_lt (block : Block) {line : List UInt8} (h : line ∈ getlines [] block.bytes) :
    line.length < 2 ^ 64 := by
  have hline := length_of_mem_getlines h
  have hle := block.length_le
  rw [List.length_nil] at hline
  omega

section

variable {outside : UInt8} {popen : List UInt8 → List (List UInt8)} {line : List UInt8}
  {lines : List (List UInt8)} {h : Handled}

theorem sizeSub_of_le {n m : Nat} (hle : m ≤ n) (hlt : n < 2 ^ 64) : sizeSub n m = n - m := by
  unfold sizeSub
  omega

/-- A difference below zero is a place far behind the end. -/
theorem lt_sizeSub {n m : Nat} (hlt : n < m) (hm : m ≤ 6) : n < sizeSub n m := by
  unfold sizeSub
  omega

variable (popen) in
/-- The output is cut at its beginning, which exists. -/
theorem exists_execCommand (command : List UInt8) :
    ∃ output, execCommand popen command = some output := by
  unfold execCommand substr
  exact ⟨_, if_pos (Nat.zero_le _)⟩

theorem stripReturn_eq (hne : line ≠ []) (hlt : line.length < 2 ^ 64) :
    stripReturn outside line = some (withoutReturn line) := by
  obtain ⟨init, b, rfl⟩ := (List.eq_nil_or_concat' line).resolve_left hne
  have hsize : sizeSub (init ++ [b]).length 1 = init.length := by
    rw [sizeSub_of_le (by simp) hlt]
    simp
  unfold stripReturn withoutReturn
  rw [hsize, List.getLast?_concat, List.dropLast_concat]
  by_cases hb : b = carriageReturn
  · simp [hb, erase]
  · simp [hb]

variable (outside popen h) in
/-- Lines that are not empty are read to the end. -/
theorem readLines_of_ne_nil (hlines : ∀ line ∈ lines, line ≠ [] ∧ line.length < 2 ^ 64) :
    (readLines outside popen h lines).reads =
        h.reads ++ lines.map (fun line => { line, index := line.length - 1 }) ∧
      (readLines outside popen h lines).commands = h.commands ++ lines.map (fun line =>
        { line := withoutReturn line, text := echo ++ withoutReturn line ++ gpsdecode }) ∧
      (readLines outside popen h lines).response = h.response ++ lines.map withoutReturn ∧
      (readLines outside popen h lines).connected = h.connected ∧
      (readLines outside popen h lines).thrown = h.thrown := by
  induction lines generalizing h with
  | nil => simp [readLines]
  | cons line lines ih =>
      obtain ⟨⟨hne, hlt⟩, hlines⟩ := List.forall_mem_cons.mp hlines
      obtain ⟨output, houtput⟩ :=
        exists_execCommand popen (echo ++ withoutReturn line ++ gpsdecode)
      have hindex : sizeSub line.length 1 = line.length - 1 :=
        sizeSub_of_le (List.length_pos_of_ne_nil hne) hlt
      rw [readLines, stripReturn_eq hne hlt]
      simp only [houtput]
      obtain ⟨hreads, hcommands, hresponse, hconnected, hthrown⟩ :=
        ih (((h.look line).passTo (withoutReturn line)
          (echo ++ withoutReturn line ++ gpsdecode)).keep (withoutReturn line) output) hlines
      rw [hreads, hcommands, hresponse, hconnected, hthrown]
      simp [Handled.look, Handled.passTo, Handled.keep, hindex]

theorem reads_subset {r : Read} (hr : r ∈ h.reads) :
    r ∈ (readLines outside popen h lines).reads := by
  induction lines generalizing h with
  | nil => exact hr
  | cons line lines ih =>
      have hlook : r ∈ (h.look line).reads := List.mem_append_left _ hr
      rw [readLines]
      split
      · exact hlook
      · next stripped _ =>
          obtain ⟨output, houtput⟩ := exists_execCommand popen (echo ++ stripped ++ gpsdecode)
          simp only [houtput]
          exact ih hlook

/-- Unless something is thrown, every line is looked at. -/
theorem mem_reads (hthrown : (readLines outside popen h lines).thrown = false)
    (hline : line ∈ lines) : { line, index := sizeSub line.length 1 } ∈
      (readLines outside popen h lines).reads := by
  induction lines generalizing h with
  | nil => cases hline
  | cons line' lines ih =>
      rw [readLines] at hthrown ⊢
      split at hthrown
      · cases hthrown
      · next stripped hstrip =>
          obtain ⟨output, houtput⟩ := exists_execCommand popen (echo ++ stripped ++ gpsdecode)
          simp only [houtput] at hthrown
          simp only [houtput]
          rcases List.mem_cons.mp hline with rfl | hline
          · exact reads_subset (List.mem_append_right _ (List.mem_singleton_self _))
          · exact ih hthrown hline

/-! ## The first line -/

theorem substr_first (hle : 6 ≤ line.length) (hlt : line.length < 2 ^ 64) :
    substr line (sizeSub line.length 6) npos = some (line.drop (line.length - 6)) := by
  have htake : (line.drop (line.length - 6)).take npos = line.drop (line.length - 6) := by
    apply List.take_of_length_le
    rw [List.length_drop, npos]
    omega
  unfold substr
  rw [sizeSub_of_le hle hlt, if_pos (Nat.sub_le _ _), htake]

theorem substr_short (hlt : line.length < 6) :
    substr line (sizeSub line.length 6) npos = none := by
  unfold substr
  apply if_neg
  have := lt_sizeSub hlt (Nat.le_refl 6)
  omega

/-- Six characters compare as a C string as they do. -/
theorem strncmp_ok200 {tail : List UInt8} (hlength : tail.length = 6) :
    strncmp ok200 tail 6 = true ↔ ok200 = tail := by
  have hok : (cString ok200).take 6 = ok200 := rfl
  unfold strncmp
  rw [hok, decide_eq_true_eq]
  constructor
  · intro h
    have hprefix : ok200 <+: tail := by
      rw [h]
      exact (List.take_prefix _ _).trans (List.takeWhile_prefix _)
    exact hprefix.eq_of_length hlength.symm
  · rintro rfl
    exact hok.symm

theorem strncmp_iff (hle : 6 ≤ line.length) :
    strncmp ok200 (line.drop (line.length - 6)) 6 = true ↔ ok200 <:+ line := by
  have hlength : (line.drop (line.length - 6)).length = 6 := by
    rw [List.length_drop]
    omega
  rw [strncmp_ok200 hlength, List.suffix_iff_eq_drop]
  rfl

theorem checkFirst_keeps (first : List UInt8) (tail : Option (List UInt8)) :
    (checkFirst h first tail).reads = h.reads ∧
      (checkFirst h first tail).commands = h.commands := by
  cases tail with
  | none => exact ⟨rfl, rfl⟩
  | some tail =>
      rw [checkFirst]
      split <;> exact ⟨rfl, rfl⟩

theorem checkResponse_keeps :
    (checkResponse h).reads = h.reads ∧ (checkResponse h).commands = h.commands := by
  unfold checkResponse
  split
  · exact checkFirst_keeps _ _
  · exact ⟨rfl, rfl⟩

theorem checkResponse_of_lt (hresponse : h.response.length < 2) : checkResponse h = h := by
  unfold checkResponse
  split
  · next hcons =>
      rw [hcons, List.length_cons, List.length_cons] at hresponse
      omega
  · rfl

/-- A first line that is long enough is compared. -/
theorem checkResponse_first {first second : List UInt8} {rest : List (List UInt8)}
    (hresponse : h.response = first :: second :: rest) (hle : 6 ≤ first.length)
    (hlt : first.length < 2 ^ 64) :
    (checkResponse h).thrown = h.thrown ∧
      ((checkResponse h).connected = true ↔ ok200 <:+ first) := by
  unfold checkResponse
  rw [hresponse]
  show (checkFirst h first _).thrown = _ ∧ ((checkFirst h first _).connected = true ↔ _)
  rw [substr_first hle hlt, checkFirst, ← strncmp_iff hle]
  split
  · next htail => exact ⟨rfl, iff_of_true rfl htail⟩
  · next htail => exact ⟨rfl, iff_of_false Bool.false_ne_true htail⟩

/-- A shorter one ends `Main`. -/
theorem checkResponse_short {first second : List UInt8} {rest : List (List UInt8)}
    (hresponse : h.response = first :: second :: rest) (hlt : first.length < 6) :
    (checkResponse h).thrown = true := by
  unfold checkResponse
  rw [hresponse]
  show (checkFirst h first _).thrown = true
  rw [substr_short hlt]
  rfl

end

/-! ## One line in its quotes -/

theorem mem_withoutReturn {line : List UInt8} {b : UInt8} (hb : b ≠ carriageReturn) :
    b ∈ withoutReturn line ↔ b ∈ line := by
  unfold withoutReturn
  split
  · next hlast =>
      obtain ⟨init, rfl⟩ := List.getLast?_eq_some_iff.mp hlast
      simp [hb]
  · exact Iff.rfl

theorem length_withoutReturn_le (line : List UInt8) :
    (withoutReturn line).length ≤ line.length := by
  unfold withoutReturn
  split
  · rw [List.length_dropLast]
    omega
  · exact Nat.le_refl _

theorem quoted_iff (line : List UInt8) :
    SingleQuoted (cString (echo ++ withoutReturn line ++ gpsdecode)) (withoutReturn line) ↔
      singleQuote ∉ line ∧ 0 ∉ line := by
  have hecho : quoting echo .unquoted = .single := by decide
  rw [singleQuoted_iff hecho (by decide) (by decide) (by decide),
    mem_withoutReturn (by decide), mem_withoutReturn (by decide)]

/-! ## When the promise is kept -/

section

variable (block : Block) (outside : UInt8) (popen : List UInt8 → List (List UInt8))

theorem promised_of_harmless (hharmless : Harmless block.bytes) :
    Promised block.bytes (handle outside popen block.bytes) := by
  have hlines : ∀ line ∈ getlines [] block.bytes, line ≠ [] ∧ line.length < 2 ^ 64 :=
    fun line hline => ⟨(hharmless.lines line hline).1, block.length_lt hline⟩
  obtain ⟨hreads, hcommands, hresponse, hconnected, hthrown⟩ :=
    readLines_of_ne_nil outside popen {} hlines
  have hhandle : handle outside popen block.bytes =
      checkResponse (readLines outside popen {} (getlines [] block.bytes)) := by
    unfold handle
    simp only [hthrown, Bool.false_eq_true, if_false]
  have hinside : ∀ r ∈ (handle outside popen block.bytes).reads, r.index < r.line.length := by
    rw [hhandle, checkResponse_keeps.1, hreads, List.nil_append, List.forall_mem_map]
    intro line hline
    have hpos := List.length_pos_of_ne_nil (hlines line hline).1
    show line.length - 1 < line.length
    omega
  have hquoted : ∀ c ∈ (handle outside popen block.bytes).commands,
      SingleQuoted (cString c.text) c.line := by
    rw [hhandle, checkResponse_keeps.2, hcommands, List.nil_append, List.forall_mem_map]
    intro line hline
    exact (quoted_iff line).mpr (hharmless.lines line hline).2
  rw [List.nil_append] at hresponse
  by_cases hfew : (getlines [] block.bytes).length < 2
  · have hsame := checkResponse_of_lt (h := readLines outside popen {} (getlines [] block.bytes))
      (by rwa [hresponse, List.length_map])
    refine ⟨hinside, ?_, ?_, hquoted⟩
    · rw [hhandle, hsame, hthrown]
    · rw [hhandle, hsame, hconnected]
      refine iff_of_false Bool.false_ne_true ?_
      rintro ⟨first, second, rest, hblock, -⟩
      rw [hblock, List.length_cons, List.length_cons] at hfew
      omega
  · obtain ⟨first, second, rest, hblock⟩ : ∃ first second rest,
        getlines [] block.bytes = first :: second :: rest := by
      match hblock : getlines [] block.bytes with
      | [] =>
          rw [hblock] at hfew
          exact absurd Nat.two_pos hfew
      | [_] =>
          rw [hblock] at hfew
          exact absurd Nat.one_lt_two hfew
      | first :: second :: rest => exact ⟨first, second, rest, rfl⟩
    have hfirst : first ∈ getlines [] block.bytes := by
      rw [hblock]
      exact List.mem_cons_self
    have hlt := Nat.lt_of_le_of_lt (length_withoutReturn_le first) (block.length_lt hfirst)
    have hcheck := checkResponse_first (hresponse.trans (congrArg (List.map withoutReturn) hblock))
      (hharmless.first first second rest hblock) hlt
    refine ⟨hinside, ?_, ?_, hquoted⟩
    · rw [hhandle, hcheck.1, hthrown]
    · rw [hhandle, hcheck.2]
      constructor
      · intro hsuffix
        exact ⟨first, second, rest, hblock, hsuffix⟩
      · rintro ⟨first', second', rest', hblock', hsuffix⟩
        rw [hblock] at hblock'
        cases hblock'
        exact hsuffix

theorem harmless_of_promised (hpromised : Promised block.bytes (handle outside popen block.bytes)) :
    Harmless block.bytes := by
  have hread : (readLines outside popen {} (getlines [] block.bytes)).thrown = false := by
    cases hthrown : (readLines outside popen {} (getlines [] block.bytes)).thrown with
    | false => rfl
    | true =>
        have hnot := hpromised.not_thrown
        unfold handle at hnot
        simp only [hthrown, if_true] at hnot
        cases hnot
  have hhandle : handle outside popen block.bytes =
      checkResponse (readLines outside popen {} (getlines [] block.bytes)) := by
    unfold handle
    simp only [hread, Bool.false_eq_true, if_false]
  have hlines : ∀ line ∈ getlines [] block.bytes, line ≠ [] ∧ line.length < 2 ^ 64 := by
    intro line hline
    refine ⟨?_, block.length_lt hline⟩
    rintro rfl
    have hinside := hpromised.inside
    rw [hhandle, checkResponse_keeps.1] at hinside
    exact absurd (hinside _ (mem_reads hread hline)) (Nat.not_lt_zero _)
  obtain ⟨-, hcommands, hresponse, -, -⟩ := readLines_of_ne_nil outside popen {} hlines
  constructor
  case lines =>
    intro line hline
    refine ⟨(hlines line hline).1, ?_⟩
    have hquoted := hpromised.quoted
    rw [hhandle, checkResponse_keeps.2, hcommands, List.nil_append, List.forall_mem_map] at hquoted
    exact (quoted_iff line).mp (hquoted line hline)
  case first =>
    intro first second rest hblock
    by_contra hlt
    rw [hblock, List.map_cons, List.map_cons, List.nil_append] at hresponse
    have hthrown := checkResponse_short hresponse (Nat.lt_of_not_le hlt)
    have hnot := hpromised.not_thrown
    rw [hhandle, hblock, hthrown] at hnot
    cases hnot

/-- **The response of a caster**: everything is as promised exactly if no line of the block is empty
or has a single quote or a NUL, and the first of at least two lines has at least six characters. -/
theorem promised_iff_harmless :
    Promised block.bytes (handle outside popen block.bytes) ↔ Harmless block.bytes :=
  ⟨harmless_of_promised block outside popen, promised_of_harmless block outside popen⟩

end

/-! ### A command in the response -/

/-- `';reboot;'` -/
def rebootBlock : Block where
  bytes := [0x27, 0x3b, 0x72, 0x65, 0x62, 0x6f, 0x6f, 0x74, 0x3b, 0x27, 0x0a]
  length_pos := by decide
  length_le := by decide

/-- The shell is out of the quotes when it comes to the second character. -/
theorem rebootBlock_not_promised :
    ¬ Promised rebootBlock.bytes (handle 0 (fun _ => []) rebootBlock.bytes) := by
  intro hpromised
  have hcommand : (⟨rebootBlock.bytes.dropLast,
      echo ++ rebootBlock.bytes.dropLast ++ gpsdecode⟩ : Command) ∈
        (handle 0 (fun _ => []) rebootBlock.bytes).commands := by
    decide +kernel
  have hecho : quoting echo .unquoted = .single := by decide
  have hquoted := hpromised.quoted _ hcommand
  rw [singleQuoted_iff hecho (by decide) (by decide) (by decide)] at hquoted
  exact absurd hquoted.1 (by decide)

end NtripResponse

end V2XHub.Rtcm
