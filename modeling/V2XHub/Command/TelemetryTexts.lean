import V2XHub.Command.Telemetry
import V2XHub.Lib.AssocList
import V2XHub.Lib.JsonExact

/-!
# What telemetry texts say

The text that is remembered of a plugin reads back as that plugin, so that comparing two texts
compares two trees. An update that can be read has only strings of the new tree, and what it leaves
out was there before, with the same value.
-/

namespace V2XHub.Command

open V2XHub.Lib
open V2XHub.Lib.JsonText

/-! ## Trees read back -/

theorem docMembers_eq (children : List (String × Ptree)) :
    docMembers children = children.map fun child => (child.1, docOf child.2) := by
  induction children with
  | nil => rw [docMembers, List.map_nil]
  | cons child children ih =>
      rw [docMembers, ih]
      rfl

theorem docElements_eq (children : List (String × Ptree)) :
    docElements children = children.map fun child => docOf child.2 := by
  induction children with
  | nil => rw [docElements, List.map_nil]
  | cons child children ih =>
      rw [docElements, ih]
      rfl

mutual

/-- The reader is inverse to the writer. -/
theorem ofDoc_docOf : (t : Ptree) → verifyJson t = true → Ptree.ofDoc (docOf t) = t
  | .node data [], _ => by rw [docOf, Ptree.ofDoc]
  | .node data (child :: children), h => by
      rw [verifyJson, Bool.and_eq_true, beq_iff_eq] at h
      rw [docOf]
      split
      · next hall =>
          have hkeys := fun c hc => of_decide_eq_true (List.all_eq_true.mp hall c hc)
          rw [Ptree.ofDoc, ofElements_docElements _ h.2 hkeys, h.1]
      · rw [Ptree.ofDoc, ofMembers_docMembers _ h.2, h.1]

theorem ofMembers_docMembers : (children : List (String × Ptree)) →
    verifyChildren children = true → Ptree.ofMembers (docMembers children) = children
  | [], _ => by rw [docMembers, Ptree.ofMembers]
  | (key, value) :: children, h => by
      rw [verifyChildren, Bool.and_eq_true] at h
      rw [docMembers, Ptree.ofMembers, ofDoc_docOf value h.1, ofMembers_docMembers children h.2]

theorem ofElements_docElements : (children : List (String × Ptree)) →
    verifyChildren children = true → (∀ child ∈ children, child.1 = "") →
      Ptree.ofElements (docElements children) = children
  | [], _, _ => by rw [docElements, Ptree.ofElements]
  | (key, value) :: children, h, hkeys => by
      obtain ⟨hkey, hrest⟩ := List.forall_mem_cons.mp hkeys
      rw [verifyChildren, Bool.and_eq_true] at h
      rw [docElements, Ptree.ofElements, ofDoc_docOf value h.1,
        ofElements_docElements children h.2 hrest]
      exact congrArg (fun key' => (key', value) :: children) hkey.symm

end

theorem verifyJson_of_mem {children : List (String × Ptree)} (h : verifyChildren children = true)
    {child : String × Ptree} (hmem : child ∈ children) : verifyJson child.2 = true := by
  induction children with
  | nil => cases hmem
  | cons first children ih =>
      rw [verifyChildren, Bool.and_eq_true] at h
      rcases List.mem_cons.mp hmem with rfl | hmem
      · exact h.1
      · exact ih h.2 hmem

/-! ## The text of one plugin -/

theorem trim_braces (ending : Bool) (body : List Char) :
    trim ('\x7b' :: body ++ '\x7d' :: if ending then ['\n'] else []) =
      '\x7b' :: body ++ ['\x7d'] := by
  have hblank : isBlank '\x7b' = false ∧ isBlank '\x7d' = false ∧ isBlank '\n' = true := by decide
  cases ending with
  | true => simp [trim, hblank]
  | false => simp [trim, hblank]

section Plugin

variable {ending : Bool} {name : String} {plugin plugin' : Ptree}

theorem pluginJSON_eq : pluginJSON ending name plugin =
    '\x7b' :: commaSeparated (writeMembers (plugin.nest (splitPath '.' name)).children) ++
      ['\x7d'] :=
  trim_braces ending _

theorem splitPath_ne_nil (sep : Char) (h : name ≠ "") : splitPath sep name ≠ [] := by
  rw [splitPath, if_neg h]
  intro hnil
  exact List.splitOn_ne_nil sep name.toList (List.map_eq_nil_iff.mp hnil)

theorem verifyJson_nest (h : verifyJson plugin = true) (path : List String) :
    verifyJson (plugin.nest path) = true := by
  induction path with
  | nil => exact h
  | cons key path ih => simp [Ptree.nest, verifyJson, verifyChildren, ih]

theorem nest_injective (path : List String) (h : plugin.nest path = plugin'.nest path) :
    plugin = plugin' := by
  induction path with
  | nil => exact h
  | cons key path ih =>
      simp only [Ptree.nest, Ptree.node.injEq, List.cons.injEq, Prod.mk.injEq, true_and,
        and_true] at h
      exact ih h

/-- The remembered text is read as the plugin below its path. -/
theorem oldPlugin_pluginJSON (hname : name ≠ "") (h : verifyJson plugin = true) :
    oldPlugin (some (pluginJSON ending name plugin)) = plugin.nest (splitPath '.' name) := by
  have hread := (reads_root (plugin.nest (splitPath '.' name))).readDoc_eq
  rw [oldPlugin, pluginJSON_eq, hread, Option.map_some, Option.getD_some, Ptree.ofDoc]
  obtain ⟨key, path, hpath⟩ := List.exists_cons_of_ne_nil (splitPath_ne_nil '.' hname)
  have hverify : verifyChildren (plugin.nest (key :: path)).children = true := by
    simp [Ptree.nest, Ptree.children, verifyChildren, verifyJson_nest h]
  rw [hpath, ofMembers_docMembers _ hverify]
  rfl

/-- Two plugins with the same text are the same. -/
theorem pluginJSON_inj (hname : name ≠ "") (h : verifyJson plugin = true)
    (h' : verifyJson plugin' = true)
    (heq : pluginJSON ending name plugin = pluginJSON ending name plugin') : plugin = plugin' := by
  have hold : oldPlugin (some (pluginJSON ending name plugin)) = _ := oldPlugin_pluginJSON hname h
  rw [heq, oldPlugin_pluginJSON hname h'] at hold
  exact nest_injective _ hold.symm

end Plugin

/-! ## Paths -/

theorem splitPath_cases (sep : Char) {name : String} (h : name ≠ "") :
    splitPath sep name = [name] ∨
      ∃ first rest more, splitPath sep name = first :: rest ∧ rest ≠ [] ∧
        name.toList = first.toList ++ sep :: more := by
  have hjoin : [sep].intercalate (name.toList.splitOn sep) = name.toList :=
    List.intercalate_splitOn sep
  rw [splitPath, if_neg h]
  rcases hsplit : name.toList.splitOn sep with _ | ⟨part, _ | ⟨next, parts⟩⟩
  · exact absurd hsplit (List.splitOn_ne_nil sep _)
  · left
    rw [hsplit, List.intercalate_singleton] at hjoin
    rw [List.map_cons, List.map_nil, hjoin, String.ofList_toList]
  · right
    rw [hsplit, List.intercalate_cons_cons] at hjoin
    refine ⟨String.ofList part, (next :: parts).map String.ofList,
      [sep].intercalate (next :: parts), rfl, by simp, ?_⟩
    rw [String.toList_ofList, ← hjoin, List.append_assoc]
    rfl

theorem splitPath_of_length {sep : Char} {name : String} (h : name ≠ "")
    (hlength : (splitPath sep name).length ≤ 1) : splitPath sep name = [name] := by
  rcases splitPath_cases sep h with hpath | ⟨first, rest, _, hpath, hrest, _⟩
  · exact hpath
  · have := List.length_pos_iff.mpr hrest
    rw [hpath, List.length_cons] at hlength
    omega

theorem length_splitPath_pos (sep : Char) {name : String} (h : name ≠ "") :
    0 < (splitPath sep name).length :=
  List.length_pos_iff.mpr (splitPath_ne_nil sep h)

namespace Ptree

theorem getChild_eq (t : Ptree) (key : String) : t.getChild key = t.children.lookup key := by
  unfold getChild
  induction t.children with
  | nil => rfl
  | cons child children ih =>
      rw [List.find?_cons, List.lookup_cons, beq_eq_decide]
      by_cases h : child.1 = key
      · simp [h]
      · simp [h, Ne.symm h, ih]

theorem getPath_append (t : Ptree) (path path' : List String) :
    t.getPath (path ++ path') = (t.getPath path).bind fun t' => t'.getPath path' := by
  induction path generalizing t with
  | nil => rfl
  | cons key path ih =>
      rw [List.cons_append, getPath, getPath, Option.bind_assoc]
      exact Option.bind_congr fun t' _ => ih t'

end Ptree

/-- Where the two separators take apart the name in different ways, nothing is found. -/
theorem getPath_nest {name : String} {plugin t : Ptree} (hname : name ≠ "")
    (h : (plugin.nest (splitPath '.' name)).getPath (splitPath '|' name) = some t) :
    t = plugin := by
  have hlong : ∀ (sep : Char) (first : String) (more : List Char),
      name.toList = first.toList ++ sep :: more → first ≠ name := by
    intro sep first more hname heq
    have hlength := congrArg List.length hname
    rw [heq, List.length_append, List.length_cons] at hlength
    omega
  -- the first parts must agree, for the tree has a single child
  have hfirst : ∀ first rest first' rest', splitPath '.' name = first :: rest →
      splitPath '|' name = first' :: rest' → first = first' := by
    intro first rest first' rest' hdot hbar
    rw [hdot, hbar, Ptree.nest, Ptree.getPath, Ptree.getChild_eq] at h
    by_contra hne
    have hbeq : (first' == first) = false := beq_eq_false_iff_ne.mpr (Ne.symm hne)
    simp [Ptree.children, List.lookup_cons, hbeq] at h
  rcases splitPath_cases '.' hname with hdot | ⟨first, rest, more, hdot, _, hmore⟩
  · rcases splitPath_cases '|' hname with hbar | ⟨first', rest', more', hbar, _, hmore'⟩
    · rw [hdot, hbar] at h
      simpa [Ptree.nest, Ptree.getPath, Ptree.getChild, Ptree.children] using h.symm
    · exact absurd (hfirst _ _ _ _ hdot hbar).symm (hlong _ _ _ hmore')
  · rcases splitPath_cases '|' hname with hbar | ⟨first', rest', more', hbar, _, hmore'⟩
    · exact absurd (hfirst _ _ _ _ hdot hbar) (hlong _ _ _ hmore)
    · have heq := hfirst _ _ _ _ hdot hbar
      rw [hmore, heq, List.append_cancel_left_eq, List.cons.injEq] at hmore'
      exact absurd hmore'.1 (by decide)

/-! ## Shapes -/

/-- A tree of that depth. Every node has children, and no two of them have the same name. -/
def Ptree.Deep : Nat → Ptree → Prop
  | 0, t => t.children = []
  | n + 1, t => t.children ≠ [] ∧ (t.children.map Prod.fst).Nodup ∧
      ∀ child ∈ t.children, child.1 ≠ "" ∧ child.2.Deep n

namespace Ptree.Deep

variable {n : Nat} {t t' : Ptree} {path : List String}

theorem of_lookup (h : t.Deep (n + 1)) {key : String} (hchild : t.children.lookup key = some t') :
    t'.Deep n :=
  (h.2.2 _ (mem_of_lookup hchild)).2

theorem docOf_zero (h : t.Deep 0) : docOf t = .text t.data := by
  obtain ⟨data, children⟩ := t
  have hnil : children = [] := h
  rw [hnil, docOf]
  rfl

theorem docOf_succ (h : t.Deep (n + 1)) : docOf t = .object (docMembers t.children) := by
  obtain ⟨data, children⟩ := t
  obtain ⟨child, rest, hchildren⟩ : ∃ child rest, children = child :: rest :=
    List.exists_cons_of_ne_nil h.1
  subst hchildren
  have hkey := (h.2.2 child List.mem_cons_self).1
  rw [docOf, if_neg]
  · rfl
  · intro hall
    exact hkey (of_decide_eq_true (List.all_eq_true.mp hall child List.mem_cons_self))

/-- Nothing is deeper. -/
theorem length_le (h : t.Deep n) (hpath : t.getPath path = some t') : path.length ≤ n := by
  induction path generalizing n t with
  | nil => exact Nat.zero_le n
  | cons key path ih =>
      rw [getPath, getChild_eq] at hpath
      obtain ⟨child, hchild, hrest⟩ := Option.bind_eq_some_iff.mp hpath
      cases n with
      | zero =>
          have hnil : t.children = [] := h
          rw [hnil] at hchild
          cases hchild
      | succ n => exact Nat.succ_le_succ (ih (h.of_lookup hchild) hrest)

theorem get_docOf (h : t.Deep (n + 1)) (key : String) :
    (docOf t).get key = (t.children.lookup key).map docOf := by
  rw [h.docOf_succ, docMembers_eq]
  exact lookup_map (fun _ => docOf) t.children key

/-- What is found at that depth is a string of the document. -/
theorem leaf_docOf (h : t.Deep n) (hpath : t.getPath path = some t') (hlength : path.length = n) :
    (docOf t).leaf path = some t'.data := by
  induction path generalizing n t with
  | nil =>
      obtain rfl : n = 0 := hlength.symm
      cases hpath
      rw [h.docOf_zero]
      rfl
  | cons key path ih =>
      rw [getPath, getChild_eq] at hpath
      obtain ⟨child, hchild, hrest⟩ := Option.bind_eq_some_iff.mp hpath
      obtain rfl : n = path.length + 1 := hlength.symm
      rw [Doc.leaf, h.get_docOf, hchild]
      exact ih (h.of_lookup hchild) hrest rfl

end Ptree.Deep

/-- The shape of a plugin in each kind of data. -/
def Shaped : DataType → Ptree → Prop
  | .list, t | .state, t => t.Deep 1
  | .config, t => t.Deep 2
  | .status, t => t.Deep 0
  | .messages, t => ∀ m ∈ t.children, m.1 = "" ∧ m.2.Deep 1
  | .systemConfig, _ => True

/-! ## What an update says -/

/-- What the update has is new, and what it leaves out is as it was. -/
def Updates (update old new : Option String) : Prop := update = new ∨ update = none ∧ old = new

theorem Updates.or_eq {update old new : Option String} (h : Updates update old new)
    (hkept : old.isSome → new.isSome) : update.or old = new := by
  rcases h with rfl | ⟨rfl, rfl⟩
  · cases update with
    | some value => rfl
    | none => exact Option.not_isSome_iff_eq_none.mp fun hold => Bool.noConfusion (hkept hold)
  · rfl

def pairDoc (nvp : String × Ptree) : String × Doc := (nvp.1, .text nvp.2.data)

/-- The pairs that have changed. -/
def pairsDoc (old : Option Ptree) (t : Ptree) : Doc :=
  .object ((changedPairs old t.children).map pairDoc)

def variableDoc (old : Option Ptree) (cfg : String × Ptree) : Option Doc :=
  let old' := old.bind fun t => t.getPath (splitPath '|' cfg.1)
  if changedPairs old' cfg.2.children = [] then none else some (pairsDoc old' cfg.2)

/-- What the update of a plugin reads as. -/
def updateDoc (k : DataType) (old : Option Ptree) (plugin : Ptree) : Doc :=
  match k with
  | .list | .state => pairsDoc old plugin
  | .config => .object (plugin.children.filterMap fun cfg =>
      (variableDoc old cfg).map fun d => (cfg.1, d))
  | .status => .text plugin.data
  | .messages | .systemConfig => .array (docElements plugin.children)

section Updates

variable {old : Option Ptree} {t : Ptree} (oldValue : List String → Option String)

theorem updates_pairsDoc (h : t.Deep 1)
    (hold : ∀ key value, key ≠ "" →
      (old.bind fun t => t.getPath (splitPath '|' key)).map Ptree.data = some value →
        oldValue [key] = some value)
    (path : List String) :
    Updates ((pairsDoc old t).leaf path) (oldValue path) ((docOf t).leaf path) := by
  rcases path with _ | ⟨key, path⟩
  · left
    rw [h.docOf_succ]
    rfl
  have hget : (pairsDoc old t).get key = ((t.children.lookup key).filter fun value =>
      decide ((old.bind fun t => t.getPath (splitPath '|' key)).map Ptree.data ≠
        some value.data)).map fun value => .text value.data := by
    have hfilter : (changedPairs old t.children).lookup key = _ := lookup_filter h.2.1 _ key
    rw [← hfilter]
    exact lookup_map (fun _ value => Doc.text value.data) (changedPairs old t.children) key
  rw [Doc.leaf, Doc.leaf, hget, h.get_docOf]
  cases hchild : t.children.lookup key with
  | none => exact .inl rfl
  | some child =>
      rw [Option.map_some, (h.of_lookup hchild).docOf_zero]
      by_cases hchanged : (old.bind fun t => t.getPath (splitPath '|' key)).map Ptree.data =
        some child.data
      · rw [Option.filter_some_neg (by simpa using hchanged)]
        rcases path with _ | ⟨key', path⟩
        · right
          exact ⟨rfl, hold key _ (h.2.2 _ (mem_of_lookup hchild)).1 hchanged⟩
        · exact .inl rfl
      · left
        rw [Option.filter_some_pos (by simpa using hchanged)]
        rfl

theorem leaf_object_nil (path : List String) : (Doc.object []).leaf path = none := by
  cases path with
  | nil => rfl
  | cons key path => rfl

theorem updates_config (h : t.Deep 2)
    (hold : ∀ cfg key value, cfg ≠ "" → key ≠ "" →
      ((old.bind fun t => t.getPath (splitPath '|' cfg)).bind fun t =>
        t.getPath (splitPath '|' key)).map Ptree.data = some value →
          oldValue [cfg, key] = some value)
    (path : List String) :
    Updates ((updateDoc .config old t).leaf path) (oldValue path) ((docOf t).leaf path) := by
  rcases path with _ | ⟨cfg, path⟩
  · left
    rw [h.docOf_succ]
    rfl
  have hget : (updateDoc .config old t).get cfg =
      (t.children.lookup cfg).bind fun value => variableDoc old (cfg, value) :=
    lookup_filterMap h.2.1 (variableDoc old) cfg
  rw [Doc.leaf, Doc.leaf, hget, h.get_docOf]
  cases hchild : t.children.lookup cfg with
  | none => exact .inl rfl
  | some child =>
      have hcfg := (h.2.2 _ (mem_of_lookup hchild)).1
      have hpairs := updates_pairsDoc (fun path => oldValue (cfg :: path)) (h.of_lookup hchild)
        (fun key value hkey => hold cfg key value hcfg hkey) path
      rw [Option.bind_some, Option.map_some, Option.bind_some, variableDoc]
      split
      · next hnil =>
          rw [pairsDoc, hnil, List.map_nil, leaf_object_nil] at hpairs
          exact hpairs
      · exact hpairs

/-- What is found among the old data is there. -/
theorem old_pair {plugin : Ptree} (h : plugin.Deep 1) {key value : String} (hkey : key ≠ "")
    (hfound : (plugin.getPath (splitPath '|' key)).map Ptree.data = some value) :
    (docOf plugin).leaf [key] = some value := by
  obtain ⟨t, ht, rfl⟩ := Option.map_eq_some_iff.mp hfound
  have hpath := splitPath_of_length hkey (h.length_le ht)
  rw [hpath] at ht
  exact h.leaf_docOf ht rfl

theorem old_variable {plugin : Ptree} (h : plugin.Deep 2) {cfg key value : String} (hcfg : cfg ≠ "")
    (hkey : key ≠ "")
    (hfound : (plugin.getPath (splitPath '|' cfg ++ splitPath '|' key)).map Ptree.data =
      some value) : (docOf plugin).leaf [cfg, key] = some value := by
  obtain ⟨t, ht, rfl⟩ := Option.map_eq_some_iff.mp hfound
  -- both paths have a part at least, and there is room for two
  have hlength := h.length_le ht
  have hpos := length_splitPath_pos '|' hcfg
  have hpos' := length_splitPath_pos '|' hkey
  rw [List.length_append] at hlength
  have hpath : splitPath '|' cfg = [cfg] := splitPath_of_length hcfg (by omega)
  have hpath' : splitPath '|' key = [key] := splitPath_of_length hkey (by omega)
  rw [hpath, hpath'] at ht
  exact h.leaf_docOf ht rfl

theorem elements_docOf_messages (h : Shaped .messages t) :
    (docOf t).elements = docElements t.children := by
  obtain ⟨data, children⟩ := t
  cases children with
  | nil =>
      rw [docOf]
      rfl
  | cons child children =>
      rw [docOf, if_pos]
      · rfl
      · exact List.all_eq_true.mpr fun m hm => decide_eq_true (h m hm).1

/-- The update of a plugin, if what was found of the old one is right. -/
theorem updates_entry {k : DataType} (hk : k ≠ .systemConfig) {prev : Option Ptree}
    (hold : ∀ t', old = some t' → prev = some t')
    (hprev : ∀ t', prev = some t' → Shaped k t') (h : Shaped k t) (path : List String) :
    Updates (entry k (updateDoc k old t) path) (prev.bind fun t' => entry k (docOf t') path)
      (entry k (docOf t) path) := by
  have hpairs : t.Deep 1 → (∀ t', prev = some t' → t'.Deep 1) →
      Updates ((pairsDoc old t).leaf path) (prev.bind fun t' => (docOf t').leaf path)
        ((docOf t).leaf path) := by
    intro hnew hprev
    refine updates_pairsDoc (fun path => prev.bind fun t' => (docOf t').leaf path) hnew ?_ path
    intro key value hkey hfound
    obtain ⟨t', ht', rfl⟩ := Option.map_eq_some_iff.mp hfound
    obtain ⟨plugin, hplugin, hpath⟩ := Option.bind_eq_some_iff.mp ht'
    rw [hold plugin hplugin]
    exact old_pair (hprev plugin (hold plugin hplugin)) hkey (by rw [hpath]; rfl)
  cases k with
  | list => exact hpairs h hprev
  | state => exact hpairs h hprev
  | config =>
      refine updates_config (fun path => prev.bind fun t' => (docOf t').leaf path) h ?_ path
      intro cfg key value hcfg hkey hfound
      obtain ⟨t', ht', rfl⟩ := Option.map_eq_some_iff.mp hfound
      obtain ⟨variable', hvariable, hpath'⟩ := Option.bind_eq_some_iff.mp ht'
      obtain ⟨plugin, hplugin, hpath⟩ := Option.bind_eq_some_iff.mp hvariable
      rw [hold plugin hplugin]
      refine old_variable (hprev plugin (hold plugin hplugin)) hcfg hkey ?_
      rw [Ptree.getPath_append, hpath, Option.bind_some, hpath']
      rfl
  | status =>
      left
      rw [Ptree.Deep.docOf_zero h]
      rfl
  | messages =>
      left
      rcases path with _ | ⟨type, _ | ⟨subtype, path⟩⟩
      · rfl
      · rfl
      · rw [entry, entry, elements_docOf_messages h]
        rfl
  | systemConfig => exact absurd rfl hk

end Updates

/-! ## Updates that can be read -/

/-- The text stands for itself between quotes. -/
def Plain (text : String) : Prop := ∀ c ∈ text.toList, c ≠ '"' ∧ c ≠ '\\' ∧ ¬ c.toNat < 0x20

/-- It does so after `replace_all`. -/
def Clean (text : String) : Prop := ∀ c ∈ text.toList, c ≠ '\\' ∧ ¬ c.toNat < 0x20

instance decidablePlain (text : String) : Decidable (Plain text) := List.decidableBAll _ _

instance decidableClean (text : String) : Decidable (Clean text) := List.decidableBAll _ _

theorem plain_iff {text : String} : Plain text ↔ Pastable ['"'] text.toList := by
  apply forall₂_congr
  intro c _
  have hquote : c = '"' → ['"'] ≠ ['\\', '"'] := fun _ => by decide
  tauto

theorem clean_iff {text : String} : Clean text ↔ Pastable ['\\', '"'] text.toList := by
  apply forall₂_congr
  intro c _
  simp

/-- As it is. -/
theorem spellsIff_plain (text : String) : SpellsIff text.toList text (Plain text) := by
  have h := spellsIff_pasted (.inl rfl) text
  rw [pasted_quote, ← plain_iff] at h
  exact h

theorem spellsIff_replaceQuotes (text : String) :
    SpellsIff (replaceQuotes text) text (Clean text) := by
  have h := spellsIff_pasted (.inr rfl) text
  rw [← clean_iff] at h
  exact h

theorem spells_plain {text : String} (h : Plain text) : Spells text.toList text :=
  (spellsIff_plain text).spells h

theorem spells_replaceQuotes {text : String} (h : Clean text) :
    Spells (replaceQuotes text) text :=
  (spellsIff_replaceQuotes text).spells h

theorem isSpace_gap : ∀ c ∈ [' '], isSpace c = true := List.forall_mem_singleton.mpr rfl

theorem readsMember_pairText {nvp : String × Ptree} (hkey : Plain nvp.1)
    (hvalue : Clean nvp.2.data) : ReadsMember (pairText nvp) (pairDoc nvp) := by
  refine ⟨nvp.1.toList, [' '], '"' :: replaceQuotes nvp.2.data ++ ['"'], ?_, spells_plain hkey,
    isSpace_gap, .text (spells_replaceQuotes hvalue)⟩
  simp [pairText]

theorem reads_pairs {old : Option Ptree} {t : Ptree}
    (h : ∀ nvp ∈ changedPairs old t.children, Plain nvp.1 ∧ Clean nvp.2.data) :
    Reads ('\x7b' :: commaSeparated ((changedPairs old t.children).map pairText) ++ ['\x7d'])
      (pairsDoc old t) := by
  refine .object ?_
  rw [List.forall₂_map_left_iff, List.forall₂_map_right_iff]
  exact List.forall₂_same.mpr fun nvp hnvp => readsMember_pairText (h nvp hnvp).1 (h nvp hnvp).2

/-- A variable is written if one of its pairs has changed. -/
theorem readsMember_changedVariable {old : Option Ptree} {cfg : String × Ptree}
    (h : ∀ nvp ∈ changedPairs (old.bind fun t => t.getPath (splitPath '|' cfg.1)) cfg.2.children,
      Plain cfg.1 ∧ Plain nvp.1 ∧ Clean nvp.2.data) :
    Option.Rel ReadsMember (changedVariable old cfg)
      ((variableDoc old cfg).map fun d => (cfg.1, d)) := by
  have hread := reads_pairs fun nvp hnvp => (h nvp hnvp).2
  unfold changedVariable variableDoc pairsDoc at *
  simp only at hread ⊢
  split
  · next hnil =>
      rw [if_pos hnil]
      exact .none
  · next pairs hne =>
      obtain ⟨nvp, rest, hpairs⟩ := List.exists_cons_of_ne_nil hne
      have hcfg := (h nvp (hpairs ▸ List.mem_cons_self)).1
      rw [if_neg hne]
      refine .some ⟨cfg.1.toList, [' '], _, ?_, spells_plain hcfg, isSpace_gap, hread⟩
      simp

theorem forall₂_filterMap {α β γ : Type} {R : β → γ → Prop} {f : α → Option β} {g : α → Option γ}
    {xs : List α} (h : ∀ x ∈ xs, Option.Rel R (f x) (g x)) :
    List.Forall₂ R (xs.filterMap f) (xs.filterMap g) := by
  induction xs with
  | nil => exact .nil
  | cons x xs ih =>
      obtain ⟨hx, hxs⟩ := List.forall_mem_cons.mp h
      rw [List.filterMap_cons, List.filterMap_cons]
      cases hf : f x with
      | none =>
          rw [hf] at hx
          cases hg : g x with
          | none => exact ih hxs
          | some c =>
              rw [hg] at hx
              cases hx
      | some b =>
          rw [hf] at hx
          cases hg : g x with
          | none =>
              rw [hg] at hx
              cases hx
          | some c =>
              rw [hg] at hx
              cases hx with
              | some hbc => exact .cons hbc (ih hxs)

/-! ## Messages

Only the newline that some versions of the writer add tells the text of a message from the part of
the text of the plugin that it is. -/

theorem newline_not_mem_escapeChar (c : Char) : '\n' ∉ escapeChar c := by
  apply forall_escapeChar (P := fun _ l => '\n' ∉ l)
  · decide
  · intro c hc hmem
    rw [← List.mem_singleton.mp hmem] at hc
    exact absurd hc (by decide)

theorem newline_not_mem_quoted (text : String) : '\n' ∉ quoted text := by
  intro hmem
  simp only [quoted, List.cons_append, List.mem_cons, List.mem_append, List.not_mem_nil,
    or_false] at hmem
  rcases hmem with hmem | hmem | hmem
  · exact absurd hmem (by decide)
  · obtain ⟨c, _, hc⟩ := List.mem_flatMap.mp hmem
    exact newline_not_mem_escapeChar c hc
  · exact absurd hmem (by decide)

theorem mem_commaSeparated {c : Char} {texts : List (List Char)} (h : c ∈ commaSeparated texts) :
    c = ',' ∨ ∃ text ∈ texts, c ∈ text := by
  induction texts with
  | nil => cases h
  | cons text texts ih =>
      cases texts with
      | nil => exact .inr ⟨text, List.mem_cons_self, h⟩
      | cons next texts =>
          rw [commaSeparated, List.mem_append, List.mem_cons] at h
          rcases h with h | h | h
          · exact .inr ⟨text, List.mem_cons_self, h⟩
          · exact .inl h
          · rcases ih h with h | ⟨text', htext', h⟩
            · exact .inl h
            · exact .inr ⟨text', List.mem_cons_of_mem _ htext', h⟩

/-- Between brackets of either kind. -/
theorem newline_not_mem_brackets {opening closing : Char} (hopening : '\n' ≠ opening)
    (hclosing : '\n' ≠ closing) {texts : List (List Char)} (h : ∀ text ∈ texts, '\n' ∉ text) :
    '\n' ∉ opening :: commaSeparated texts ++ [closing] := by
  intro hmem
  rw [List.cons_append, List.mem_cons, List.mem_append, List.mem_singleton] at hmem
  rcases hmem with hmem | hmem | hmem
  · exact hopening hmem
  · rcases mem_commaSeparated hmem with hmem | ⟨text, htext, hmem⟩
    · exact absurd hmem (by decide)
    · exact h text htext hmem
  · exact hclosing hmem

mutual

theorem newline_not_mem_writeValue : (t : Ptree) → '\n' ∉ writeValue t
  | .node data [] => by
      rw [writeValue]
      exact newline_not_mem_quoted data
  | .node _ (child :: children) => by
      rw [writeValue]
      split
      · exact newline_not_mem_brackets (by decide) (by decide)
          (newline_not_mem_writeElements (child :: children))
      · exact newline_not_mem_brackets (by decide) (by decide)
          (newline_not_mem_writeMembers (child :: children))

theorem newline_not_mem_writeElements : (children : List (String × Ptree)) →
    ∀ text ∈ writeElements children, '\n' ∉ text
  | [], text, htext => by
      rw [writeElements] at htext
      cases htext
  | (_, value) :: children, text, htext => by
      rw [writeElements, List.mem_cons] at htext
      rcases htext with rfl | htext
      · exact newline_not_mem_writeValue value
      · exact newline_not_mem_writeElements children text htext

theorem newline_not_mem_writeMembers : (children : List (String × Ptree)) →
    ∀ text ∈ writeMembers children, '\n' ∉ text
  | [], text, htext => by
      rw [writeMembers] at htext
      cases htext
  | (key, value) :: children, text, htext => by
      rw [writeMembers, List.mem_cons] at htext
      rcases htext with rfl | htext
      · intro hmem
        rw [List.mem_append, List.mem_cons] at hmem
        rcases hmem with hmem | hmem | hmem
        · exact newline_not_mem_quoted key hmem
        · exact absurd hmem (by decide)
        · exact newline_not_mem_writeValue value hmem
      · exact newline_not_mem_writeMembers children text htext

end

theorem infix_of_finds {part text : List Char} (h : finds part text = true) : part <:+: text := by
  induction text with
  | nil =>
      rw [finds, List.isEmpty_iff] at h
      subst h
      exact List.nil_infix
  | cons c text ih =>
      rw [finds, Bool.or_eq_true] at h
      rcases h with h | h
      · exact (List.isPrefixOf_iff_prefix.mp h).isInfix
      · exact (ih h).trans (List.suffix_cons c text).isInfix

/-- Every message is sent, if the writer ends its text with a newline. -/
theorem missingElements_true (name : String) (plugin : Ptree) (elements : List (String × Ptree)) :
    missingElements true (pluginJSON true name plugin) elements =
      elements.map fun element => writeJson true element.2 := by
  apply List.filter_eq_self.mpr
  intro text htext
  obtain ⟨element, _, rfl⟩ := List.mem_map.mp htext
  rw [Bool.not_eq_true', Bool.eq_false_iff]
  intro hfinds
  have hmem : '\n' ∈ writeJson true element.2 := by simp [writeJson]
  have hplugin := (infix_of_finds hfinds).subset hmem
  rw [pluginJSON_eq] at hplugin
  exact newline_not_mem_brackets (by decide) (by decide) (newline_not_mem_writeMembers _) hplugin

/-- Nothing but the old plugin is found at its name. -/
theorem oldData_eq {ending : Bool} {name : String} {prev : Option Ptree} {t : Ptree}
    (hname : name ≠ "") (hprev : ∀ plugin, prev = some plugin → verifyJson plugin = true)
    (h : oldData (prev.map (pluginJSON ending name)) name = some t) : prev = some t := by
  cases prev with
  | none =>
      obtain ⟨key, path, hpath⟩ := List.exists_cons_of_ne_nil (splitPath_ne_nil '|' hname)
      rw [oldData, hpath] at h
      cases h
  | some plugin =>
      rw [oldData, Option.map_some, oldPlugin_pluginJSON hname (hprev plugin rfl)] at h
      rw [getPath_nest hname h]

theorem readsElement_message {m : Ptree} (h : m.Deep 1) :
    ReadsElement (writeJson true m) (docOf m) := by
  rw [h.docOf_succ]
  exact readsElement_writeJson true m

/-- All that stands unescaped in the update of a plugin can be read. -/
def Readable (ending : Bool) (k : DataType) (old : Option Ptree) (name : String) (plugin : Ptree) :
    Prop :=
  Plain name ∧
    match k with
    | .list | .state => ∀ nvp ∈ changedPairs old plugin.children, Plain nvp.1 ∧ Clean nvp.2.data
    | .config => ∀ cfg ∈ plugin.children,
        ∀ nvp ∈ changedPairs (old.bind fun t => t.getPath (splitPath '|' cfg.1)) cfg.2.children,
          Plain cfg.1 ∧ Plain nvp.1 ∧ Clean nvp.2.data
    | .status => Plain plugin.data
    | .messages => ending = true
    | .systemConfig => False

theorem reads_updateValue {ending : Bool} {k : DataType} {old : Option Ptree} {name : String}
    {plugin : Ptree} (hshaped : Shaped k plugin) (h : Readable ending k old name plugin) :
    Reads (updateValue k ending old (pluginJSON ending name plugin) plugin)
      (updateDoc k old plugin) := by
  cases k with
  | list => exact reads_pairs h.2
  | state => exact reads_pairs h.2
  | config =>
      exact .object (forall₂_filterMap fun cfg hcfg => readsMember_changedVariable (h.2 cfg hcfg))
  | status => exact .text (spells_plain h.2)
  | messages =>
      obtain rfl : ending = true := h.2
      rw [updateValue, missingElements_true, updateDoc, docElements_eq]
      refine .array ?_
      rw [List.forall₂_map_left_iff, List.forall₂_map_right_iff]
      exact List.forall₂_same.mpr fun m hm => readsElement_message (hshaped m hm).2
  | systemConfig => exact absurd h.2 id

theorem readsMember_updateText {ending : Bool} {k : DataType} {remembered : Option (List Char)}
    {name : String} {plugin : Ptree} (hshaped : Shaped k plugin)
    (h : Readable ending k (oldData remembered name) name plugin) :
    ReadsMember (updateText k ending remembered name plugin)
      (name, updateDoc k (oldData remembered name) plugin) := by
  have hk : k ≠ .systemConfig := by
    rintro rfl
    exact h.2
  refine ⟨name.toList, [' '], _, ?_, spells_plain h.1, isSpace_gap, reads_updateValue hshaped h⟩
  rw [updateText, if_neg hk]
  rfl

end V2XHub.Command
