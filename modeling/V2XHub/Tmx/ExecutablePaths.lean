import V2XHub.Lib.Loop
import V2XHub.Lib.Paths

/-!
# Where a plugin's executable lies

Before the monitor starts a plugin it takes the name of the executable apart at its slashes, counts
how deep it leads below the installed path, and pastes the tokens behind that path. A name that is
empty, that comes above the installed path or ends not below it disables the plugin. The tokens come
from a tokenizer that takes out empty ones in a loop that begins again after each removal, but at
the second token.
-/

namespace V2XHub.Tmx

open Lib Lib.Paths

namespace ExecutablePaths

/-! ## The tokenizer -/

/-- The scan of `tokenize`, with the characters since `startPosition`. There is no token behind a
separator at the end. -/
def tokensFrom (current : Component) : List Char → List Component
  | [] => if current = [] then [] else [current]
  | c :: str => if c = '/' then current :: tokensFrom [] str else tokensFrom (current ++ [c]) str

/-- A round of the loop that removes empty tokens: the iterator is its distance from `begin()`, and
after a removal it is `begin()` when the header of the loop moves it on. It ends with nothing where
the iterator is behind the end and is read. -/
def removeRound (s : List Component × Nat) :
    LoopStep (List Component × Nat) (Option (List Component)) :=
  if s.2 ≠ s.1.length ∧ 0 < s.1.length then
    match s.1[s.2]? with
    | none => .done none
    | some token =>
        if token = [] then .again (s.1.eraseIdx s.2, 1) else .again (s.1, s.2 + 1)
  else .done (some s.1)

/-- `tokenize(str, "/", true)` ends with these tokens. -/
def Tokenizes (str : List Char) (tokens : List Component) : Prop :=
  ∃ fuel, loop removeRound fuel (tokensFrom [] str, 0) = some (some tokens)

/-- Not an empty component. -/
def nonempty (c : Component) : Bool := c ≠ []

/-- The tokens that are not taken out: an empty first one is, and then the next is not looked at. -/
def kept : List Component → List Component
  | [] => []
  | token :: tokens =>
      if token = [] then
        match tokens with
        | [] => []
        | next :: tokens => next :: tokens.filter nonempty
      else token :: tokens.filter nonempty

/-- Tokens that are not empty are passed by. -/
theorem loop_removeRound_pass (before tokens after : List Component) (h : ∀ t ∈ tokens, t ≠ [])
    (fuel : Nat) : loop removeRound (fuel + tokens.length)
        (before ++ (tokens ++ after), before.length) =
      loop removeRound fuel (before ++ (tokens ++ after), before.length + tokens.length) := by
  induction tokens generalizing before with
  | nil => rfl
  | cons token tokens ih =>
      have hround : removeRound (before ++ (token :: tokens ++ after), before.length) =
          .again (before ++ (token :: tokens ++ after), before.length + 1) := by
        have htoken : token ≠ [] := h token (List.mem_cons_self ..)
        simp [removeRound, htoken]
      have hnext := ih (before ++ [token]) fun t ht => h t (List.mem_cons_of_mem _ ht)
      rw [List.length_append, List.length_singleton, List.append_assoc, List.singleton_append,
        ← List.cons_append] at hnext
      rw [List.length_cons, ← Nat.add_assoc, loop_again hround, hnext]
      congr 2
      omega

/-- From the second token on, all empty tokens are taken out. -/
theorem loop_removeRound_tail (first : Component) (tokens : List Component) :
    ∃ fuel, loop removeRound fuel (first :: tokens, 1) =
      some (some (first :: tokens.filter nonempty)) := by
  induction h : tokens.length using Nat.strongRecOn generalizing tokens with
  | ind n ih =>
      by_cases hempty : [] ∈ tokens
      · -- the first empty one is taken out, and the iterator is at the second token again
        obtain ⟨before, after, rfl, hbefore⟩ := List.eq_append_cons_of_mem hempty
        have hne : ∀ t ∈ before, t ≠ [] := fun t ht hnil => hbefore (hnil ▸ ht)
        have hpass := loop_removeRound_pass [first] before ([] :: after) hne
        obtain ⟨fuel, hfuel⟩ := ih (before ++ after).length (by simp [← h]) (before ++ after) rfl
        have hround :
            removeRound ([first] ++ (before ++ [] :: after), [first].length + before.length) =
              .again (first :: (before ++ after), 1) := by
          have hlength : 1 + before.length ≠ before.length + (after.length + 1) + 1 := by omega
          have hget : (first :: (before ++ [] :: after))[1 + before.length]? = some [] := by
            rw [Nat.add_comm, List.getElem?_cons_succ]
            simp
          have herase : (first :: (before ++ [] :: after)).eraseIdx (1 + before.length) =
              first :: (before ++ after) := by
            rw [Nat.add_comm, List.eraseIdx_cons_succ,
              List.eraseIdx_append_of_length_le (Nat.le_refl _)]
            simp
          simp [removeRound, hlength, hget, herase]
        refine ⟨fuel + 1 + before.length, ?_⟩
        rw [List.filter_append, List.filter_cons_of_neg (by simp [nonempty]), ← List.filter_append,
          ← hfuel, ← loop_again hround fuel]
        exact hpass (fuel + 1)
      · have hne : ∀ t ∈ tokens, t ≠ [] := fun t ht hnil => hempty (hnil ▸ ht)
        have hpass := loop_removeRound_pass [first] tokens [] hne 1
        have hround : removeRound ([first] ++ (tokens ++ []), [first].length + tokens.length) =
            .done (some (first :: tokens)) := by
          simp [removeRound, Nat.add_comm]
        have hall : tokens.filter nonempty = tokens := by
          rw [List.filter_eq_self]
          exact fun t ht => by simpa [nonempty] using hne t ht
        refine ⟨1 + tokens.length, ?_⟩
        rw [List.append_nil] at hpass
        rw [hall]
        exact hpass.trans (loop_done (by simpa using hround) 0)

/-- **What the tokenizer keeps.** -/
theorem tokenizes (str : List Char) : Tokenizes str (kept (tokensFrom [] str)) := by
  rw [Tokenizes]
  cases tokensFrom [] str with
  | nil => exact ⟨1, rfl⟩
  | cons token tokens =>
      by_cases htoken : token = []
      · subst htoken
        cases tokens with
        | nil => exact ⟨2, rfl⟩
        | cons next tokens =>
            have hround : removeRound ([] :: next :: tokens, 0) = .again (next :: tokens, 1) := rfl
            obtain ⟨fuel, hfuel⟩ := loop_removeRound_tail next tokens
            exact ⟨fuel + 1, (loop_again hround fuel).trans hfuel⟩
      · have hround : removeRound (token :: tokens, 0) = .again (token :: tokens, 1) := by
          simp [removeRound, htoken]
        obtain ⟨fuel, hfuel⟩ := loop_removeRound_tail token tokens
        refine ⟨fuel + 1, (loop_again hround fuel).trans ?_⟩
        rw [hfuel]
        simp [kept, htoken]

theorem Tokenizes.eq {str : List Char} {tokens : List Component} (h : Tokenizes str tokens) :
    tokens = kept (tokensFrom [] str) := by
  obtain ⟨fuel, hfuel⟩ := h
  obtain ⟨fuel', hfuel'⟩ := tokenizes str
  injection loop_unique hfuel hfuel'

/-! ## The check of the monitor -/

/-- Why a plugin is disabled. -/
inductive Refusal where
  | emptyName
  | outsideRoot
  deriving DecidableEq, Repr

/-- What the event log says of it. -/
def Refusal.text : Refusal → String
  | .emptyName => "Unable to start plugin.  Executable name is empty."
  | .outsideRoot => "Unable to start plugin. " ++
      "The executable path goes outside of the root of the plugins zip package."

/-- What is executed. -/
structure Launch where
  fullpath : List Char
  workingDirectory : List Char
  exeName : Component
  deriving DecidableEq, Repr

/-- The loop over the tokens of the name. -/
structure Walk where
  fullpath : List Char
  exeDepth : Int := 0
  outOfRoot : Bool := false
  deriving DecidableEq, Repr

/-- A token that is not `.` is pasted and counted. -/
def Walk.paste (w : Walk) (token : Component) : Walk :=
  if token = ['.'] then w
  else
    { w with
      fullpath := w.fullpath ++ '/' :: token
      exeDepth := if token = ['.', '.'] then w.exeDepth - 1 else w.exeDepth + 1 }

def Walk.noteRoot (w : Walk) : Walk :=
  if w.exeDepth < 0 then { w with outOfRoot := true } else w

/-- A round of the loop. -/
def walkToken (w : Walk) (token : Component) : Walk := (w.paste token).noteRoot

@[simp] theorem Walk.noteRoot_fullpath (w : Walk) : w.noteRoot.fullpath = w.fullpath := by
  rw [noteRoot]
  split <;> rfl

@[simp] theorem Walk.noteRoot_exeDepth (w : Walk) : w.noteRoot.exeDepth = w.exeDepth := by
  rw [noteRoot]
  split <;> rfl

theorem Walk.noteRoot_outOfRoot (w : Walk) :
    w.noteRoot.outOfRoot = true ↔ w.exeDepth < 0 ∨ w.outOfRoot = true := by
  rw [noteRoot]
  split
  · rename_i h
    simp [h]
  · rename_i h
    simp [h]

/-- What becomes of the tokens of an installed path and of the name of an executable. -/
def launchTokens (tokenizedPathName tokenizedExeName : List Component) : Except Refusal Launch :=
  match tokenizedExeName.getLast? with
  | none => .error .emptyName
  | some exeName =>
      let path := pathOf tokenizedPathName
      let workingDirectory := if path = [] then ['/'] else path
      let w := tokenizedExeName.foldl walkToken { fullpath := path }
      if w.exeDepth < 1 ∨ w.outOfRoot then .error .outsideRoot
      else .ok { fullpath := w.fullpath, workingDirectory, exeName }

/-- The monitor comes to this for an enabled plugin that does not run. -/
def Launches (path exeName : List Char) (outcome : Except Refusal Launch) : Prop :=
  ∃ tokenizedExeName tokenizedPathName, Tokenizes exeName tokenizedExeName ∧
    Tokenizes path tokenizedPathName ∧
    outcome = launchTokens tokenizedPathName tokenizedExeName

theorem launches_iff {path exeName : List Char} {outcome : Except Refusal Launch} :
    Launches path exeName outcome ↔
      outcome = launchTokens (kept (tokensFrom [] path)) (kept (tokensFrom [] exeName)) := by
  constructor
  · rintro ⟨names, paths, hnames, hpaths, rfl⟩
    rw [hnames.eq, hpaths.eq]
  · rintro rfl
    exact ⟨_, _, tokenizes exeName, tokenizes path, rfl⟩

/-- What is executed lies below the installed path. -/
def Confined (path exeName : List Char) : Prop :=
  ∀ launch, Launches path exeName (.ok launch) →
    StrictlyBelow (resolveText path) (resolveText launch.fullpath)

/-! ## Tokens and components -/

theorem not_mem_tokensFrom {current : Component} (hcurrent : '/' ∉ current) (str : List Char) :
    ∀ t ∈ tokensFrom current str, '/' ∉ t := by
  induction str generalizing current with
  | nil =>
      rw [tokensFrom]
      split
      · simp
      · intro t ht
        rwa [List.mem_singleton.mp ht]
  | cons c str ih =>
      rw [tokensFrom]
      split
      · intro t ht
        rcases List.mem_cons.mp ht with rfl | ht
        · exact hcurrent
        · exact ih (List.not_mem_nil) t ht
      · rename_i hc
        apply ih
        intro hmem
        rcases List.mem_append.mp hmem with hmem | hmem
        · exact hcurrent hmem
        · exact hc (List.mem_singleton.mp hmem).symm

/-- The tokens are the components, up to empty ones. -/
theorem filter_tokensFrom {current : Component} (hcurrent : '/' ∉ current) (str : List Char) :
    (tokensFrom current str).filter nonempty =
      ((current ++ str).splitOn '/').filter nonempty := by
  induction str generalizing current with
  | nil =>
      rw [tokensFrom, List.append_nil, List.splitOn_eq_singleton hcurrent]
      split
      · rename_i hnil
        rw [hnil]
        rfl
      · rfl
  | cons c str ih =>
      rw [tokensFrom]
      split
      · rename_i hc
        have hrest := ih List.not_mem_nil
        rw [List.nil_append] at hrest
        rw [hc, List.splitOn_append_cons_self_of_not_mem hcurrent, List.filter_cons,
          List.filter_cons, hrest]
      · rename_i hc
        have hmem : '/' ∉ current ++ [c] := by
          intro hmem
          rcases List.mem_append.mp hmem with hmem | hmem
          · exact hcurrent hmem
          · exact hc (List.mem_singleton.mp hmem).symm
        rw [ih hmem, List.append_assoc, List.singleton_append]

theorem filter_kept (tokens : List Component) :
    (kept tokens).filter nonempty = tokens.filter nonempty := by
  cases tokens with
  | nil => rfl
  | cons token tokens =>
      by_cases htoken : token = []
      · subst htoken
        cases tokens with
        | nil => rfl
        | cons next tokens =>
            have hnil : nonempty [] = false := rfl
            simp [kept, List.filter_cons, List.filter_filter, hnil]
      · simp [kept, htoken, List.filter_cons, List.filter_filter]

theorem mem_of_mem_kept {tokens : List Component} {t : Component} (h : t ∈ kept tokens) :
    t ∈ tokens := by
  cases tokens with
  | nil => exact h
  | cons token tokens =>
      by_cases htoken : token = []
      · subst htoken
        cases tokens with
        | nil => cases h
        | cons next tokens =>
            simp only [kept, if_true, List.mem_cons, List.mem_filter] at h ⊢
            exact Or.inr (h.imp_right And.left)
      · simp only [kept, htoken, if_false, List.mem_cons, List.mem_filter] at h ⊢
        exact h.imp_right And.left

theorem tokensFrom_head {current : Component} (hcurrent : current ≠ []) (str : List Char) :
    ∃ token tokens, tokensFrom current str = token :: tokens ∧ token ≠ [] := by
  induction str generalizing current with
  | nil => exact ⟨current, [], by rw [tokensFrom, if_neg hcurrent], hcurrent⟩
  | cons c str ih =>
      rw [tokensFrom]
      split
      · exact ⟨current, _, rfl, hcurrent⟩
      · exact ih (by simp)

theorem nonempty_of_mem_cons {token : Component} (htoken : token ≠ []) (tokens : List Component) :
    ∀ t ∈ token :: tokens.filter nonempty, t ≠ [] := by
  intro t ht
  rcases List.mem_cons.mp ht with rfl | ht
  · exact htoken
  · simpa [nonempty] using (List.mem_filter.mp ht).2

/-- An empty token is kept only of a name that begins with two slashes. -/
theorem kept_cases (str : List Char) :
    (∀ t ∈ kept (tokensFrom [] str), t ≠ []) ∧ (∀ rest, str ≠ '/' :: '/' :: rest) ∨
      ∃ rest, str = '/' :: '/' :: rest ∧
        kept (tokensFrom [] str) = [] :: (tokensFrom [] rest).filter nonempty := by
  match str with
  | [] =>
      left
      exact ⟨by simp [tokensFrom, kept], by simp⟩
  | c :: str =>
      by_cases hc : c = '/'
      · subst hc
        cases str with
        | nil =>
            left
            exact ⟨by simp [tokensFrom, kept], by simp⟩
        | cons d str =>
            by_cases hd : d = '/'
            · subst hd
              right
              exact ⟨str, rfl, by simp [tokensFrom, kept]⟩
            · left
              obtain ⟨token, tokens, htokens, htoken⟩ :=
                tokensFrom_head (List.cons_ne_nil d []) str
              have hkept : kept (tokensFrom [] ('/' :: d :: str)) =
                  token :: tokens.filter nonempty := by
                simp [tokensFrom, hd, htokens, kept]
              rw [hkept]
              refine ⟨nonempty_of_mem_cons htoken tokens, fun rest heq => hd ?_⟩
              injection heq with _ heq
              injection heq
      · left
        obtain ⟨token, tokens, htokens, htoken⟩ := tokensFrom_head (List.cons_ne_nil c []) str
        have hkept : kept (tokensFrom [] (c :: str)) = token :: tokens.filter nonempty := by
          simp [tokensFrom, hc, htokens, kept, htoken]
        rw [hkept]
        refine ⟨nonempty_of_mem_cons htoken tokens, fun rest heq => hc ?_⟩
        injection heq

/-! ## The walk -/

/-- The walk after tokens that come to `r`, from a depth of `base`. -/
structure Walks (base : Int) (r : Relative) (w : Walk) : Prop where
  exeDepth : w.exeDepth = base + r.names.length - r.ups
  outOfRoot : w.outOfRoot = true ↔ base < r.ups

theorem walkToken_walks {base : Int} {r : Relative} {w : Walk} (h : Walks base r w)
    {token : Component} (htoken : token ≠ []) :
    Walks base (r.descend token) (walkToken w token) := by
  obtain ⟨hdepth, hroot⟩ := h
  by_cases hdot : token = ['.']
  · have hwalk : walkToken w token = w.noteRoot := by rw [walkToken, Walk.paste, if_pos hdot]
    have hr : r.descend token = r := by rw [Relative.descend, if_pos (Or.inr hdot)]
    rw [hwalk, hr]
    refine ⟨by rw [Walk.noteRoot_exeDepth, hdepth], ?_⟩
    rw [Walk.noteRoot_outOfRoot, hroot]
    omega
  · have hstay : ¬ (token = [] ∨ token = ['.']) := not_or.mpr ⟨htoken, hdot⟩
    rw [walkToken, Walk.paste, if_neg hdot, Relative.descend, if_neg hstay]
    by_cases hup : token = ['.', '.']
    · rw [if_pos hup, if_pos hup]
      by_cases hnames : r.names = []
      · -- one more step up
        rw [if_pos hnames]
        rw [hnames, List.length_nil] at hdepth
        refine ⟨?_, ?_⟩
        · rw [Walk.noteRoot_exeDepth]
          simp only [hnames, List.length_nil]
          push_cast
          omega
        · rw [Walk.noteRoot_outOfRoot, hroot]
          push_cast
          omega
      · rw [if_neg hnames]
        have hpos : 0 < r.names.length := List.length_pos_iff.mpr hnames
        refine ⟨?_, ?_⟩
        · rw [Walk.noteRoot_exeDepth]
          simp only [List.length_dropLast]
          omega
        · rw [Walk.noteRoot_outOfRoot, hroot]
          simp only
          omega
    · rw [if_neg hup, if_neg hup]
      refine ⟨?_, ?_⟩
      · rw [Walk.noteRoot_exeDepth]
        simp only [List.length_append, List.length_singleton]
        push_cast
        omega
      · rw [Walk.noteRoot_outOfRoot, hroot]
        simp only
        omega

theorem foldl_walks {base : Int} {tokens : List Component} (htokens : ∀ t ∈ tokens, t ≠ [])
    {r : Relative} {w : Walk} (h : Walks base r w) :
    Walks base (tokens.foldl Relative.descend r) (tokens.foldl walkToken w) := by
  induction tokens generalizing r w with
  | nil => exact h
  | cons token tokens ih =>
      have hstep := walkToken_walks h (htokens token (List.mem_cons_self ..))
      exact ih (fun t ht => htokens t (List.mem_cons_of_mem _ ht)) hstep

theorem fullpath_foldl (tokens : List Component) (w : Walk) :
    (tokens.foldl walkToken w).fullpath = w.fullpath ++ pathOf (tokens.filter (· ≠ ['.'])) := by
  induction tokens generalizing w with
  | nil => simp [pathOf]
  | cons token tokens ih =>
      rw [List.foldl_cons, ih, walkToken, Walk.noteRoot_fullpath]
      by_cases htoken : token = ['.']
      · rw [Walk.paste, if_pos htoken, List.filter_cons_of_neg (by simpa using htoken)]
      · rw [Walk.paste, if_neg htoken, List.filter_cons_of_pos (by simpa using htoken)]
        show (w.fullpath ++ '/' :: token) ++ _ = _ ++ ('/' :: token ++ pathOf _)
        rw [List.append_assoc]

/-- **Where the pasted path leads**: from the installed path as the name says. -/
theorem resolveText_fullpath (path exeName : List Char) :
    resolveText (pathOf (kept (tokensFrom [] path)) ++
        pathOf ((kept (tokensFrom [] exeName)).filter (· ≠ ['.']))) =
      (Relative.of (kept (tokensFrom [] exeName))).seenFrom (resolveText path) := by
  have hslash : ∀ (str : List Char), ∀ t ∈ kept (tokensFrom [] str), '/' ∉ t :=
    fun str t ht => not_mem_tokensFrom List.not_mem_nil str t (mem_of_mem_kept ht)
  have hnonempty : ∀ c, nonempty c = false → c = [] ∨ c = ['.'] := by
    intro c hc
    left
    simpa [nonempty] using hc
  have hpath : resolve (kept (tokensFrom [] path)) = resolveText path := by
    have htokens := filter_tokensFrom List.not_mem_nil path
    rw [List.nil_append] at htokens
    rw [resolve, ← foldl_descend_filter hnonempty, filter_kept, htokens,
      foldl_descend_filter hnonempty]
    rfl
  rw [pathOf, pathOf, ← List.flatMap_append]
  show resolveText (pathOf _) = _
  rw [resolveText_pathOf]
  · rw [resolve, List.foldl_append, foldl_descend_filter, Relative.foldl_descend_eq]
    · exact congrArg _ hpath
    · intro c hc
      right
      simpa using hc
  · intro c hc
    rcases List.mem_append.mp hc with hc | hc
    · exact hslash path c hc
    · exact hslash exeName c (List.mem_of_mem_filter hc)

/-! ## Confinement -/

/-- The name begins with two slashes, and behind them either comes back to where it began, or goes
up once and not in again by the last component of the installed path. -/
def Escapes (path exeName : List Char) : Prop :=
  ∃ rest, exeName = '/' :: '/' :: rest ∧
    let r := Relative.of (components rest)
    (r.ups = 0 ∧ r.names = [] ∨
      r.ups = 1 ∧ r.names ≠ [] ∧ resolveText path ≠ [] ∧
        ¬ ∃ last name names, (resolveText path).getLast? = some last ∧
          r.names = last :: name :: names)

/-- The walk over the tokens of a name, behind an installed path. -/
def walk (path exeName : List Char) : Walk :=
  (kept (tokensFrom [] exeName)).foldl walkToken { fullpath := pathOf (kept (tokensFrom [] path)) }

/-- The name is accepted. -/
def Accepted (path exeName : List Char) : Prop :=
  1 ≤ (walk path exeName).exeDepth ∧ ¬ (walk path exeName).outOfRoot = true

theorem confined_iff_accepted (path exeName : List Char) :
    Confined path exeName ↔ (Accepted path exeName → StrictlyBelow (resolveText path)
      ((Relative.of (kept (tokensFrom [] exeName))).seenFrom (resolveText path))) := by
  have hplace : resolveText (walk path exeName).fullpath =
      (Relative.of (kept (tokensFrom [] exeName))).seenFrom (resolveText path) := by
    rw [walk, fullpath_foldl, resolveText_fullpath]
  constructor
  · rintro h ⟨hdepth, hroot⟩
    cases hlast : (kept (tokensFrom [] exeName)).getLast? with
    | none =>
        rw [List.getLast?_eq_none_iff] at hlast
        have hzero : (walk path exeName).exeDepth = 0 := by
          rw [walk, hlast]
          rfl
        omega
    | some name =>
        rw [← hplace]
        apply h ⟨(walk path exeName).fullpath,
          if pathOf (kept (tokensFrom [] path)) = [] then ['/']
          else pathOf (kept (tokensFrom [] path)), name⟩
        rw [launches_iff, launchTokens, hlast]
        have haccepted : ¬ ((walk path exeName).exeDepth < 1 ∨
            (walk path exeName).outOfRoot = true) := by
          rintro (hlt | hout)
          · omega
          · exact hroot hout
        exact (if_neg haccepted).symm
  · intro h launch hlaunch
    rw [launches_iff, launchTokens] at hlaunch
    split at hlaunch
    · cases hlaunch
    · dsimp only at hlaunch
      split at hlaunch
      · cases hlaunch
      · rename_i haccepted
        injection hlaunch with hlaunch
        obtain ⟨hdepth, hroot⟩ := not_or.mp haccepted
        rw [hlaunch]
        show StrictlyBelow _ (resolveText (walk path exeName).fullpath)
        rw [hplace]
        exact h ⟨Int.not_lt.mp hdepth, hroot⟩

/-- Without an empty token the accepted names are those that lead below. -/
theorem confined_of_nonempty {path exeName : List Char}
    (h : ∀ t ∈ kept (tokensFrom [] exeName), t ≠ []) : Confined path exeName := by
  rw [confined_iff_accepted]
  rintro ⟨hdepth, hroot⟩
  have hwalks : Walks 0 (Relative.of (kept (tokensFrom [] exeName))) (walk path exeName) :=
    foldl_walks h ⟨rfl, by simp⟩
  rw [hwalks.exeDepth] at hdepth
  rw [hwalks.outOfRoot] at hroot
  have hups : (Relative.of (kept (tokensFrom [] exeName))).ups = 0 := by omega
  apply (Relative.strictlyBelow_of_ups_eq_zero hups _).mpr
  intro hnames
  rw [hnames, List.length_nil] at hdepth
  omega

/-- An empty first token counts as a step down. -/
theorem confined_iff_slashes (path rest : List Char) {r : Relative}
    (hr : r = Relative.of (components rest))
    (hkept : kept (tokensFrom [] ('/' :: '/' :: rest)) =
      [] :: (tokensFrom [] rest).filter nonempty) :
    Confined path ('/' :: '/' :: rest) ↔
      (r.ups ≤ 1 → r.ups ≤ r.names.length →
        StrictlyBelow (resolveText path) (r.seenFrom (resolveText path))) := by
  have hnonempty : ∀ c, nonempty c = false → c = [] ∨ c = ['.'] := by
    intro c hc
    left
    simpa [nonempty] using hc
  have hof : Relative.of ((tokensFrom [] rest).filter nonempty) = r := by
    have htokens := filter_tokensFrom List.not_mem_nil rest
    rw [List.nil_append] at htokens
    rw [htokens, Relative.of_filter hnonempty, hr]
    rfl
  have hofKept : Relative.of (kept (tokensFrom [] ('/' :: '/' :: rest))) = r := by
    rw [hkept, ← hof]
    rfl
  have hwalks : Walks 1 r (walk path ('/' :: '/' :: rest)) := by
    rw [walk, hkept, List.foldl_cons, ← hof]
    apply foldl_walks
    · intro t ht
      simpa [nonempty] using (List.mem_filter.mp ht).2
    · exact ⟨rfl, by simp [walkToken, Walk.paste, Walk.noteRoot]⟩
  rw [confined_iff_accepted, hofKept, Accepted, hwalks.exeDepth, hwalks.outOfRoot]
  constructor
  · intro h hups hlength
    exact h ⟨by omega, by omega⟩
  · rintro h ⟨hdepth, hroot⟩
    exact h (by omega) (by omega)

/-- **Executables are confined** to the installed path exactly when no name with two slashes in
front escapes it. -/
theorem confined_iff (path exeName : List Char) :
    Confined path exeName ↔ ¬ Escapes path exeName := by
  rcases kept_cases exeName with ⟨hnonempty, hslashes⟩ | ⟨rest, rfl, hkept⟩
  · have hnot : ¬ Escapes path exeName := fun ⟨rest, hrest, _⟩ => hslashes rest hrest
    exact ⟨fun _ => hnot, fun _ => confined_of_nonempty hnonempty⟩
  · rw [confined_iff_slashes path rest rfl hkept]
    have hescapes : Escapes path ('/' :: '/' :: rest) ↔
        let r := Relative.of (components rest)
        (r.ups = 0 ∧ r.names = [] ∨
          r.ups = 1 ∧ r.names ≠ [] ∧ resolveText path ≠ [] ∧
            ¬ ∃ last name names, (resolveText path).getLast? = some last ∧
              r.names = last :: name :: names) := by
      constructor
      · rintro ⟨rest', heq, h⟩
        injection heq with _ heq
        injection heq with _ heq
        rwa [heq]
      · exact fun h => ⟨rest, rfl, h⟩
    rw [hescapes]
    dsimp only
    generalize Relative.of (components rest) = r
    by_cases hzero : r.ups = 0
    · rw [Relative.strictlyBelow_of_ups_eq_zero hzero]
      simp [hzero]
    · by_cases hone : r.ups = 1
      · by_cases hnames : r.names = []
        · simp [hone, hnames]
        · have hpos := List.length_pos_iff.mpr hnames
          rw [Relative.strictlyBelow_of_ups_eq_one hone hnames]
          have hlength : r.ups ≤ r.names.length := by omega
          constructor
          · rintro h (⟨hups, -⟩ | ⟨-, -, hroot, hback⟩)
            · exact hzero hups
            · rcases h (Nat.le_of_eq hone) hlength with hnil | hin
              · exact hroot hnil
              · exact hback hin
          · intro h _ _
            by_contra hnot
            obtain ⟨hroot, hback⟩ := not_or.mp hnot
            exact h (Or.inr ⟨hone, hnames, hroot, hback⟩)
      · have hmany : ¬ r.ups ≤ 1 := by omega
        simp [hzero, hone, hmany]

/-- `//../x` is started beside the directory of its plugin. -/
theorem slashes_not_confined :
    Launches "/opt/p".toList "//../x".toList
        (.ok ⟨"/opt/p//../x".toList, "/opt/p".toList, "x".toList⟩) ∧
      resolveText "/opt/p//../x".toList = ["opt".toList, "x".toList] ∧
      ¬ Confined "/opt/p".toList "//../x".toList := by
  have hlaunch : Launches "/opt/p".toList "//../x".toList
      (.ok ⟨"/opt/p//../x".toList, "/opt/p".toList, "x".toList⟩) := by
    rw [launches_iff]
    decide +kernel
  have hplace : resolveText "/opt/p//../x".toList = ["opt".toList, "x".toList] := by
    decide +kernel
  have hroot : resolveText "/opt/p".toList = ["opt".toList, "p".toList] := by decide +kernel
  refine ⟨hlaunch, hplace, fun h => ?_⟩
  obtain ⟨names, -, heq⟩ := h _ hlaunch
  rw [hplace, hroot] at heq
  injection heq with _ heq
  injection heq with hname
  exact absurd hname (by decide)

end ExecutablePaths

end V2XHub.Tmx
