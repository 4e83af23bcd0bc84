import V2XHub.Lib.Reports
import V2XHub.Validation.Fields

/-!
# The fields a document is missing

A schema applies to a document, and with it subschemas apply to parts of the document: those of
`properties` to the properties that are there, those of `items` to the elements, those of `allOf` to
the same part again, and what a reference leads to in its place. Each part that is an object is to
be reported for every name that a subschema applying to it requires and that it does not have.

A subschema applies along a route from the schema, and it may require what another one requires of
the same object. `collectMissingRequired` writes a line for each of them, and it follows one
reference where a chain may lead on.

**Main result** `missingFields_reported_iff`: which reports have one line for each name that is
missing from an object.
-/

namespace V2XHub.Validation

namespace Json

open Lib

/-! ## References -/

/-- The text of the reference that a node is. -/
def ref? (node : Json) : Option String := (node.member? "$ref").bind cString?

section

variable (pointerGet : String → Json → Option Json) (root : Json)

/-- What a local reference refers to. -/
def refTarget (ref : String) : Option Json :=
  if ref.toList.head? ≠ some '#' then none
  else if ref = "#" then some root
  else pointerGet (String.ofList (ref.toList.drop 1)) root

/-- The subschema that a node stands for, at the end of its chain of references. -/
inductive Resolves : Json → Json → Prop
  | here {node : Json} : node.ref? = none → Resolves node node
  | follow {node target schema : Json} {ref : String} :
      node.ref? = some ref → refTarget pointerGet root ref = some target →
        Resolves target schema → Resolves node schema

/-- The same without a chain: at most one reference is followed. -/
def Direct (node schema : Json) : Prop :=
  node.ref? = none ∧ schema = node ∨
    ∃ ref, node.ref? = some ref ∧ refTarget pointerGet root ref = some schema ∧ schema.ref? = none

/-- The nodes below a node, and the one it refers to. -/
def children (node : Json) : List Json :=
  (match node.member? "properties" with
    | some (.obj properties) => properties.map Prod.snd
    | _ => []) ++
  (node.member? "items").toList ++
  (match node.member? "allOf" with
    | some (.arr subschemas) => subschemas
    | _ => []) ++
  (node.ref?.bind (refTarget pointerGet root)).toList

/-- The nodes of the schema. -/
inductive Node : Json → Prop
  | root : Node root
  | child {node child : Json} : Node node → child ∈ children pointerGet root node → Node child

/-- A schema made of objects, in which a node with a reference has nothing else, and references are
local and lead somewhere. -/
structure InFragment : Prop where
  isObject : ∀ node, Node pointerGet root node → node.isObject
  alone : ∀ node ref, Node pointerGet root node → node.ref? = some ref →
    ∃ value, node = .obj [("$ref", value)]
  target : ∀ node ref, Node pointerGet root node → node.ref? = some ref →
    ∃ target, refTarget pointerGet root ref = some target

end

/-! ## Which subschemas apply to what -/

inductive Step where
  | property (i : Nat)
  | item (i : Nat)
  | allOf (i : Nat)
  deriving DecidableEq, Repr

/-- A part of a document, from the part that it is directly in. -/
inductive Place where
  | member (name : String)
  | element (i : Nat)
  deriving DecidableEq, Repr

/-- How the code writes the path to a part. -/
def jsonPath (path : List Place) : String :=
  path.foldl (fun text place =>
    match place with
    | .member name => text ++ "." ++ cString name
    | .element i => text ++ "[" ++ toString i ++ "]") "$"

theorem jsonPath_member (path : List Place) (name : String) :
    jsonPath (path ++ [.member name]) = jsonPath path ++ "." ++ cString name := by
  unfold jsonPath
  rw [List.foldl_append]
  rfl

theorem jsonPath_element (path : List Place) (i : Nat) :
    jsonPath (path ++ [.element i]) = jsonPath path ++ "[" ++ toString i ++ "]" := by
  unfold jsonPath
  rw [List.foldl_append]
  rfl

/-- `Applies resolves node inst path route schema part partPath`: when `node` applies to `inst` at
`path`, `schema` applies to `part` of it at `partPath`, along the route. What nodes stand for is
`resolves`. -/
inductive Applies (resolves : Json → Json → Prop) :
    Json → Json → List Place → List Step → Json → Json → List Place → Prop
  | here {node schema inst : Json} {path : List Place} :
      resolves node schema → Applies resolves node inst path [] schema inst path
  | property {node schema sub child target part : Json} {properties members : Members}
      {name : String} {path partPath : List Place} {i : Nat} {route : List Step} :
      resolves node schema → schema.member? "properties" = some (.obj properties) →
        properties[i]? = some (name, sub) → members.lookup name = some child →
          Applies resolves sub child (path ++ [.member name]) route target part partPath →
            Applies resolves node (.obj members) path (.property i :: route) target part partPath
  | item {node schema element target part : Json} {items : Members} {elements : List Json}
      {path partPath : List Place} {i : Nat} {route : List Step} :
      resolves node schema → schema.member? "items" = some (.obj items) →
        elements[i]? = some element →
          Applies resolves (.obj items) element (path ++ [.element i]) route target part partPath →
            Applies resolves node (.arr elements) path (.item i :: route) target part partPath
  | allOf {node schema inst sub target part : Json} {subschemas : List Json}
      {path partPath : List Place} {i : Nat} {route : List Step} :
      resolves node schema → schema.member? "allOf" = some (.arr subschemas) →
        subschemas[i]? = some sub → Applies resolves sub inst path route target part partPath →
          Applies resolves node inst path (.allOf i :: route) target part partPath

/-- An object of the document and a name. -/
structure MissingName where
  path : List Place
  name : String
  deriving DecidableEq, Repr

/-- A required name of a subschema that applies somewhere: the route there, its index in the list of
required names, the object and the name. -/
structure RequiredName extends MissingName where
  route : List Step
  index : Nat
  deriving DecidableEq, Repr

/-- The list of required names has this one, as a C string. -/
def RequiredAt (schema : Json) (index : Nat) (name : String) : Prop :=
  ∃ names nameValue, schema.member? "required" = some (.arr names) ∧
    names[index]? = some nameValue ∧ nameValue.cString? = some name

/-- The required names of subschemas applying to objects that do not have them. -/
def missing (resolves : Json → Json → Prop) (node inst : Json) (path : List Place) :
    Set RequiredName :=
  { e | ∃ schema members, Applies resolves node inst path e.route schema (.obj members) e.path ∧
    RequiredAt schema e.index e.name ∧ members.lookup e.name = none }

/-- The objects of a document with the names that they are missing, whatever requires them. -/
def missingNames (resolves : Json → Json → Prop) (schema doc : Json) : Set MissingName :=
  RequiredName.toMissingName '' missing resolves schema doc []

/-- A line says what is missing from where, with a reference to the schema of it. -/
def Says (m : MissingName) (line : String) : Prop :=
  ∃ schemaRef, line = jsonPath m.path ++ "." ++ m.name ++ " is missing (" ++ schemaRef ++ ")"

def RequiredName.Says (e : RequiredName) : String → Prop := Json.Says e.toMissingName

theorem Applies.mono {resolves resolves' : Json → Json → Prop}
    (h : ∀ node schema, resolves node schema → resolves' node schema)
    {node inst schema part : Json} {path partPath : List Place} {route : List Step}
    (happlies : Applies resolves node inst path route schema part partPath) :
    Applies resolves' node inst path route schema part partPath := by
  induction happlies with
  | here hnode => exact .here (h _ _ hnode)
  | property hnode hproperties hi hchild _ ih =>
      exact .property (h _ _ hnode) hproperties hi hchild ih
  | item hnode hitems hi _ ih => exact .item (h _ _ hnode) hitems hi ih
  | allOf hnode hallOf hi _ ih => exact .allOf (h _ _ hnode) hallOf hi ih

theorem missing_mono {resolves resolves' : Json → Json → Prop}
    (h : ∀ node schema, resolves node schema → resolves' node schema) (node inst : Json)
    (path : List Place) : missing resolves node inst path ⊆ missing resolves' node inst path := by
  rintro e ⟨schema, members, happlies, hrequired, habsent⟩
  exact ⟨schema, members, happlies.mono h, hrequired, habsent⟩

/-! ## What is missing, part by part -/

def RequiredName.after (step : Step) (e : RequiredName) : RequiredName :=
  { e with route := step :: e.route }

theorem RequiredName.after_injective (step : Step) :
    Function.Injective (RequiredName.after step) := by
  rintro ⟨missing, route, index⟩ ⟨missing', route', index'⟩ h
  cases h
  rfl

section

variable (resolves : Json → Json → Prop) (schema inst : Json) (path : List Place)

/-- Required by the subschema itself. -/
def missingHere (index : Nat) : Set RequiredName :=
  { e | e.route = [] ∧ e.index = index ∧ e.path = path ∧
    ∃ members, inst = .obj members ∧ RequiredAt schema index e.name ∧
      members.lookup e.name = none }

def missingInProperty (i : Nat) : Set RequiredName :=
  { e | ∃ properties members name sub child,
    schema.member? "properties" = some (.obj properties) ∧ inst = .obj members ∧
      properties[i]? = some (name, sub) ∧ members.lookup name = some child ∧
        e ∈ missing resolves sub child (path ++ [.member name]) }

def missingInItem (i : Nat) : Set RequiredName :=
  { e | ∃ items elements element,
    schema.member? "items" = some (.obj items) ∧ inst = .arr elements ∧
      elements[i]? = some element ∧
        e ∈ missing resolves (.obj items) element (path ++ [.element i]) }

def missingInAllOf (i : Nat) : Set RequiredName :=
  { e | ∃ subschemas sub, schema.member? "allOf" = some (.arr subschemas) ∧
    subschemas[i]? = some sub ∧ e ∈ missing resolves sub inst path }

variable {resolves schema inst path} {node : Json}

theorem missingInProperty_eq {properties members : Members} {name : String} {sub : Json} {i : Nat}
    (hproperties : schema.member? "properties" = some (.obj properties))
    (hi : properties[i]? = some (name, sub)) :
    missingInProperty resolves schema (.obj members) path i =
      {e | ∃ child, members.lookup name = some child ∧
        e ∈ missing resolves sub child (path ++ [.member name])} := by
  ext e
  constructor
  · rintro ⟨properties', members', name', sub', child, hproperties', hmembers, hi', hchild, he⟩
    cases hproperties.symm.trans hproperties'
    cases hmembers
    cases hi.symm.trans hi'
    exact ⟨child, hchild, he⟩
  · rintro ⟨child, hchild, he⟩
    exact ⟨properties, members, name, sub, child, hproperties, rfl, hi, hchild, he⟩

theorem missingInItem_eq {items : Members} {elements : List Json} {element : Json} {i : Nat}
    (hitems : schema.member? "items" = some (.obj items)) (hi : elements[i]? = some element) :
    missingInItem resolves schema (.arr elements) path i =
      missing resolves (.obj items) element (path ++ [.element i]) := by
  ext e
  constructor
  · rintro ⟨items', elements', element', hitems', helements, hi', he⟩
    cases hitems.symm.trans hitems'
    cases helements
    cases hi.symm.trans hi'
    exact he
  · exact fun he => ⟨items, elements, element, hitems, rfl, hi, he⟩

theorem missingInAllOf_eq {subschemas : List Json} {sub : Json} {i : Nat}
    (hallOf : schema.member? "allOf" = some (.arr subschemas)) (hi : subschemas[i]? = some sub) :
    missingInAllOf resolves schema inst path i = missing resolves sub inst path := by
  ext e
  constructor
  · rintro ⟨subschemas', sub', hallOf', hi', he⟩
    cases hallOf.symm.trans hallOf'
    cases hi.symm.trans hi'
    exact he
  · exact fun he => ⟨subschemas, sub, hallOf, hi, he⟩

/-- What is missing below a node, by the first step of the route. -/
theorem missing_eq (hnode : ∀ s, resolves node s ↔ s = schema) :
    missing resolves node inst path =
      {e | ∃ i, e ∈ missingHere schema inst path i} ∪
      {e | ∃ i, e ∈ RequiredName.after (.property i) ''
        missingInProperty resolves schema inst path i} ∪
      {e | ∃ i, e ∈ RequiredName.after (.item i) '' missingInItem resolves schema inst path i} ∪
      {e | ∃ i, e ∈ RequiredName.after (.allOf i) ''
        missingInAllOf resolves schema inst path i} := by
  ext e
  constructor
  · obtain ⟨⟨partPath, name⟩, route, index⟩ := e
    rintro ⟨target, members, happlies, hrequired, habsent⟩
    cases happlies with
    | here hschema =>
        cases (hnode _).mp hschema
        exact .inl (.inl (.inl ⟨index, rfl, rfl, rfl, members, rfl, hrequired, habsent⟩))
    | @property _ _ sub child _ _ properties members' propertyName _ _ i route hschema hproperties
        hi hchild hrest =>
        cases (hnode _).mp hschema
        exact .inl (.inl (.inr ⟨i, ⟨⟨partPath, name⟩, route, index⟩,
          ⟨properties, members', propertyName, sub, child, hproperties, rfl, hi, hchild,
            target, members, hrest, hrequired, habsent⟩, rfl⟩))
    | @item _ _ element _ _ items elements _ _ i route hschema hitems hi hrest =>
        cases (hnode _).mp hschema
        exact .inl (.inr ⟨i, ⟨⟨partPath, name⟩, route, index⟩,
          ⟨items, elements, element, hitems, rfl, hi, target, members, hrest, hrequired, habsent⟩,
          rfl⟩)
    | @allOf _ _ _ sub _ _ subschemas _ _ i route hschema hallOf hi hrest =>
        cases (hnode _).mp hschema
        exact .inr ⟨i, ⟨⟨partPath, name⟩, route, index⟩,
          ⟨subschemas, sub, hallOf, hi, target, members, hrest, hrequired, habsent⟩, rfl⟩
  · have hschema := (hnode schema).mpr rfl
    rintro (((h | h) | h) | h)
    · obtain ⟨i, hroute, hindex, hpath, members, hinst, hrequired, habsent⟩ := h
      refine ⟨schema, members, ?_, hindex ▸ hrequired, habsent⟩
      rw [hroute, hpath, hinst]
      exact .here hschema
    · obtain ⟨i, e, ⟨properties, members', name, sub, child, hproperties, rfl, hi, hchild, target,
        members, hrest, hrequired, habsent⟩, rfl⟩ := h
      exact ⟨target, members, .property hschema hproperties hi hchild hrest, hrequired, habsent⟩
    · obtain ⟨i, e, ⟨items, elements, element, hitems, rfl, hi, target, members, hrest, hrequired,
        habsent⟩, rfl⟩ := h
      exact ⟨target, members, .item hschema hitems hi hrest, hrequired, habsent⟩
    · obtain ⟨i, e, ⟨subschemas, sub, hallOf, hi, target, members, hrest, hrequired, habsent⟩,
        rfl⟩ := h
      exact ⟨target, members, .allOf hschema hallOf hi hrest, hrequired, habsent⟩

/-- A node that stands for nothing requires nothing. -/
theorem not_mem_missing (hnode : ∀ s, ¬ resolves node s) (e : RequiredName) :
    e ∉ missing resolves node inst path := by
  intro h
  obtain ⟨⟨partPath, name⟩, route, index⟩ := e
  obtain ⟨target, members, happlies, -⟩ := h
  cases happlies with
  | here hschema => exact hnode _ hschema
  | property hschema => exact hnode _ hschema
  | item hschema => exact hnode _ hschema
  | allOf hschema => exact hnode _ hschema

end

/-! ## What is collected, part by part -/

section

variable (pointerGet : String → Json → Option Json) (root : Json)

def collectInProperties (n : Nat) (schema inst : Json) (jsonPath resolvedSchemaPath : String) :
    Option (List (List String)) :=
  match schema.member? "properties", inst with
  | some (.obj properties), .obj members =>
      properties.mapM fun (name, propSchema) =>
        match members.lookup name with
        | none => some []
        | some child => collectMissingRequired pointerGet root n propSchema child
            (jsonPath ++ "." ++ cString name)
            (resolvedSchemaPath ++ "/properties/" ++ cString name)
  | _, _ => some []

def collectInItems (n : Nat) (schema inst : Json) (jsonPath resolvedSchemaPath : String) :
    Option (List (List String)) :=
  match schema.member? "items", inst with
  | some (.obj items), .arr elements =>
      elements.zipIdx.mapM fun (element, index) =>
        collectMissingRequired pointerGet root n (.obj items) element
          (jsonPath ++ "[" ++ toString index ++ "]") (resolvedSchemaPath ++ "/items")
  | _, _ => some []

def collectInAllOf (n : Nat) (schema inst : Json) (jsonPath resolvedSchemaPath : String) :
    Option (List (List String)) :=
  match schema.member? "allOf" with
  | some (.arr subschemas) =>
      subschemas.zipIdx.mapM fun (sub, index) =>
        collectMissingRequired pointerGet root n sub inst jsonPath
          (resolvedSchemaPath ++ "/allOf/" ++ toString index)
  | _ => some []

variable {pointerGet root}

section

variable {n : Nat} {schema inst : Json} {jsonPath schemaPath : String}
variable {k : List (List String) → Option (List String)}

theorem collectInProperties_bind :
    (collectInProperties pointerGet root n schema inst jsonPath schemaPath).bind k =
      match schema.member? "properties", inst with
      | some (.obj properties), .obj members =>
          (properties.mapM fun (name, propSchema) =>
            match members.lookup name with
            | none => some []
            | some child => collectMissingRequired pointerGet root n propSchema child
                (jsonPath ++ "." ++ cString name)
                (schemaPath ++ "/properties/" ++ cString name)).bind k
      | _, _ => (some []).bind k := by
  unfold collectInProperties
  split
  · rfl
  · rfl

theorem collectInItems_bind :
    (collectInItems pointerGet root n schema inst jsonPath schemaPath).bind k =
      match schema.member? "items", inst with
      | some (.obj items), .arr elements =>
          (elements.zipIdx.mapM fun ((element, index) : Json × Nat) =>
            collectMissingRequired pointerGet root n (.obj items) element
              (jsonPath ++ "[" ++ toString index ++ "]") (schemaPath ++ "/items")).bind k
      | _, _ => (some []).bind k := by
  unfold collectInItems
  split
  · rfl
  · rfl

theorem collectInAllOf_bind :
    (collectInAllOf pointerGet root n schema inst jsonPath schemaPath).bind k =
      match schema.member? "allOf" with
      | some (.arr subschemas) =>
          (subschemas.zipIdx.mapM fun ((sub, index) : Json × Nat) =>
            collectMissingRequired pointerGet root n sub inst jsonPath
              (schemaPath ++ "/allOf/" ++ toString index)).bind k
      | _ => (some []).bind k := by
  unfold collectInAllOf
  split
  · rfl
  · rfl

end

theorem collectMissingRequired_succ {n : Nat} {node schema inst : Json}
    {jsonPath schemaPath : String}
    (hresolved : resolveRef pointerGet node root = some (some schema))
    (hobject : schema.isObject = true) :
    collectMissingRequired pointerGet root (n + 1) node inst jsonPath schemaPath =
      (collectInProperties pointerGet root n schema inst jsonPath (refOr node schemaPath)).bind
        fun inProperties =>
      (collectInItems pointerGet root n schema inst jsonPath (refOr node schemaPath)).bind
        fun inItems =>
      (collectInAllOf pointerGet root n schema inst jsonPath (refOr node schemaPath)).bind
        fun inAllOf =>
      some ((if inst.isObject then missingRequired schema inst jsonPath (refOr node schemaPath)
          else []) ++ inProperties.flatten ++ inItems.flatten ++ inAllOf.flatten) := by
  rw [collectMissingRequired, hresolved]
  simp only [collectInProperties_bind, collectInItems_bind, collectInAllOf_bind]
  show (if schema.isObject = false then some [] else _) = _
  rw [hobject, if_neg Bool.true_eq_false.mp]
  rfl

end

/-! ## What is collected reports what is missing -/

theorem disjoint_after {step : Nat → Step} (hstep : Function.Injective step)
    (S : Nat → Set RequiredName) (i j : Nat) (hne : i ≠ j) :
    ∀ e ∈ RequiredName.after (step i) '' S i, e ∉ RequiredName.after (step j) '' S j := by
  rintro _ ⟨e, -, rfl⟩ ⟨e', -, heq⟩
  exact hne (hstep (List.cons.inj (congrArg RequiredName.route heq)).1.symm)

theorem reports_after {S : Set RequiredName} {lines : List String} (step : Step)
    (h : Reports RequiredName.Says S lines) :
    Reports RequiredName.Says (RequiredName.after step '' S) lines :=
  h.image (RequiredName.after_injective step).injOn fun _ _ hline => hline

section

variable {schema inst : Json} {path : List Place} {schemaPath : String}

theorem requiredAt_iff {names : List Json} {nameValue : Json} {i : Nat} {name : String}
    (hnames : schema.member? "required" = some (.arr names)) (hi : names[i]? = some nameValue) :
    RequiredAt schema i name ↔ nameValue.cString? = some name := by
  constructor
  · rintro ⟨names', nameValue', hnames', hi', hname⟩
    cases hnames.symm.trans hnames'
    cases hi.symm.trans hi'
    exact hname
  · exact fun hname => ⟨names, nameValue, hnames, hi, hname⟩

/-- The line for one required name. -/
theorem reports_missingHere {names : List Json} {nameValue : Json} {members : Members} {i : Nat}
    {schemaRef : String → String} (hnames : schema.member? "required" = some (.arr names))
    (hi : names[i]? = some nameValue) :
    Reports RequiredName.Says (missingHere schema (.obj members) path i)
      (match nameValue.cString? with
        | none => none
        | some name =>
            if ((Json.obj members).member? name).isSome then none
            else some (jsonPath path ++ "." ++ name ++ " is missing (" ++
              schemaRef name ++ ")")).toList := by
  have hrequired : ∀ name, RequiredAt schema i name ↔ nameValue.cString? = some name :=
    fun _ => requiredAt_iff hnames hi
  cases hname : nameValue.cString? with
  | none =>
      refine Reports.nil ?_
      rintro e ⟨-, -, -, _, -, he, -⟩
      exact nomatch ((hrequired _).mp he).symm.trans hname
  | some name =>
      simp only
      split_ifs with hhas
      · refine Reports.nil ?_
        rintro e ⟨-, -, -, _, hmembers, he, habsent⟩
        cases hmembers
        cases ((hrequired _).mp he).symm.trans hname
        exact absurd hhas (Option.not_isSome_iff_eq_none.mpr habsent)
      · refine (Reports.singleton (a := ⟨⟨path, name⟩, [], i⟩) ⟨_, rfl⟩).of_eq ?_
        ext e
        constructor
        · rintro rfl
          exact ⟨rfl, rfl, rfl, members, rfl, (hrequired name).mpr hname,
            Option.not_isSome_iff_eq_none.mp hhas⟩
        · rintro ⟨hroute, hindex, hpath, _, -, he, -⟩
          obtain ⟨⟨partPath, other⟩, route, index⟩ := e
          cases hroute
          cases hindex
          cases hpath
          cases ((hrequired _).mp he).symm.trans hname
          rfl

theorem reports_missingRequired :
    Reports RequiredName.Says {e | ∃ i, e ∈ missingHere schema inst path i}
      (if inst.isObject then missingRequired schema inst (jsonPath path) schemaPath else []) := by
  by_cases hboth : ∃ names members, schema.member? "required" = some (.arr names) ∧
      inst = .obj members
  · obtain ⟨names, members, hnames, rfl⟩ := hboth
    have hcode : (if (Json.obj members).isObject then
        missingRequired schema (.obj members) (jsonPath path) schemaPath else []) =
          missingRequired schema (.obj members) (jsonPath path) schemaPath := if_pos rfl
    rw [hcode, missingRequired, hnames]
    refine Reports.filterMap (fun i nameValue hi => reports_missingHere hnames hi) ?_ ?_
    · rintro i j hne e ⟨-, hi, -⟩ ⟨-, hj, -⟩
      exact hne (hi.symm.trans hj)
    · rintro i e ⟨-, -, -, _, -, ⟨names', _, hnames', hi, -⟩, -⟩
      cases hnames.symm.trans hnames'
      exact (List.getElem?_eq_some_iff.mp hi).1
  · have hempty : (if inst.isObject then missingRequired schema inst (jsonPath path) schemaPath
        else []) = [] := by
      cases inst with
      | obj members =>
          show missingRequired schema (.obj members) (jsonPath path) schemaPath = []
          rw [missingRequired]
          split
          · next names hnames => exact absurd ⟨names, members, hnames, rfl⟩ hboth
          · rfl
      | _ => rfl
    rw [hempty]
    refine Reports.nil ?_
    rintro e ⟨i, -, -, -, members, hinst, ⟨names, _, hnames, -⟩, -⟩
    exact hboth ⟨names, members, hnames, hinst⟩

variable {pointerGet : String → Json → Option Json} {root : Json} {n : Nat}
variable {resolves : Json → Json → Prop}

/-- The collection for a node reports what is missing below it. -/
def Collects (pointerGet : String → Json → Option Json) (root : Json)
    (resolves : Json → Json → Prop) (n : Nat) (node inst : Json) (path : List Place) : Prop :=
  ∀ schemaPath, ∃ report,
    collectMissingRequired pointerGet root n node inst (jsonPath path) schemaPath = some report ∧
      Reports RequiredName.Says (missing resolves node inst path) report

theorem reports_inProperties (schemaPath : String)
    (hrec : ∀ (properties members : Members) (i : Nat) (name : String) (sub child : Json),
      schema.member? "properties" = some (.obj properties) → inst = .obj members →
        properties[i]? = some (name, sub) → members.lookup name = some child →
          Collects pointerGet root resolves n sub child (path ++ [.member name])) :
    ∃ rs, collectInProperties pointerGet root n schema inst (jsonPath path) schemaPath = some rs ∧
      Reports RequiredName.Says {e | ∃ i, e ∈ RequiredName.after (.property i) ''
        missingInProperty resolves schema inst path i} rs.flatten := by
  by_cases hboth : ∃ properties members, schema.member? "properties" = some (.obj properties) ∧
      inst = .obj members
  · obtain ⟨properties, members, hproperties, rfl⟩ := hboth
    unfold collectInProperties
    rw [hproperties]
    refine Reports.mapM (fun i property hi => ?_)
      (disjoint_after (fun _ _ h => Step.property.inj h) _) ?_
    · obtain ⟨name, sub⟩ := property
      rw [missingInProperty_eq hproperties hi]
      -- a property the instance does not have is not looked into
      cases hchild : members.lookup name with
      | none =>
          refine ⟨[], ?_, reports_after _ (Reports.nil ?_)⟩
          · simp only [hchild]
          · rintro e ⟨_, h, -⟩
            exact nomatch h
      | some child =>
          obtain ⟨report, hreport, hreports⟩ :=
            hrec properties members i name sub child hproperties rfl hi hchild
              (schemaPath ++ "/properties/" ++ cString name)
          refine ⟨report, ?_, reports_after _ (hreports.of_eq ?_)⟩
          · simp only [hchild]
            rw [← jsonPath_member]
            exact hreport
          · ext e
            exact ⟨fun he => ⟨child, rfl, he⟩, fun ⟨_, h, he⟩ => Option.some.inj h ▸ he⟩
    · rintro i _ ⟨e, ⟨properties', _, _, _, _, hproperties', -, hi, -⟩, -⟩
      cases hproperties.symm.trans hproperties'
      exact (List.getElem?_eq_some_iff.mp hi).1
  · refine ⟨[], ?_, Reports.nil ?_⟩
    · unfold collectInProperties
      split
      · next properties members hproperties =>
          exact absurd ⟨properties, members, hproperties, rfl⟩ hboth
      · rfl
    · rintro _ ⟨i, e, ⟨properties, members, _, _, _, hproperties, hinst, -⟩, -⟩
      exact hboth ⟨properties, members, hproperties, hinst⟩

theorem reports_inItems (schemaPath : String)
    (hrec : ∀ (items : Members) (elements : List Json) (i : Nat) (element : Json),
      schema.member? "items" = some (.obj items) → inst = .arr elements →
        elements[i]? = some element →
          Collects pointerGet root resolves n (.obj items) element (path ++ [.element i])) :
    ∃ rs, collectInItems pointerGet root n schema inst (jsonPath path) schemaPath = some rs ∧
      Reports RequiredName.Says {e | ∃ i, e ∈ RequiredName.after (.item i) ''
        missingInItem resolves schema inst path i} rs.flatten := by
  by_cases hboth : ∃ items elements, schema.member? "items" = some (.obj items) ∧
      inst = .arr elements
  · obtain ⟨items, elements, hitems, rfl⟩ := hboth
    unfold collectInItems
    rw [hitems]
    refine Reports.mapM (fun i indexed hi => ?_)
      (disjoint_after (fun _ _ h => Step.item.inj h) _) ?_
    · rw [List.getElem?_zipIdx, Option.map_eq_some_iff] at hi
      obtain ⟨element, hi, rfl⟩ := hi
      obtain ⟨report, hreport, hreports⟩ := hrec items elements i element hitems rfl hi
        (schemaPath ++ "/items")
      rw [missingInItem_eq hitems hi]
      refine ⟨report, ?_, reports_after _ hreports⟩
      rw [Nat.zero_add]
      show collectMissingRequired pointerGet root n (.obj items) element
        (jsonPath path ++ "[" ++ toString i ++ "]") _ = _
      rw [← jsonPath_element]
      exact hreport
    · rintro i _ ⟨e, ⟨_, elements', _, -, helements, hi, -⟩, -⟩
      cases helements
      rw [List.length_zipIdx]
      exact (List.getElem?_eq_some_iff.mp hi).1
  · refine ⟨[], ?_, Reports.nil ?_⟩
    · unfold collectInItems
      split
      · next items elements hitems => exact absurd ⟨items, elements, hitems, rfl⟩ hboth
      · rfl
    · rintro _ ⟨i, e, ⟨items, elements, _, hitems, hinst, -⟩, -⟩
      exact hboth ⟨items, elements, hitems, hinst⟩

theorem reports_inAllOf (schemaPath : String)
    (hrec : ∀ (subschemas : List Json) (i : Nat) (sub : Json),
      schema.member? "allOf" = some (.arr subschemas) → subschemas[i]? = some sub →
        Collects pointerGet root resolves n sub inst path) :
    ∃ rs, collectInAllOf pointerGet root n schema inst (jsonPath path) schemaPath = some rs ∧
      Reports RequiredName.Says {e | ∃ i, e ∈ RequiredName.after (.allOf i) ''
        missingInAllOf resolves schema inst path i} rs.flatten := by
  by_cases hallOf : ∃ subschemas, schema.member? "allOf" = some (.arr subschemas)
  · obtain ⟨subschemas, hallOf⟩ := hallOf
    unfold collectInAllOf
    rw [hallOf]
    refine Reports.mapM (fun i indexed hi => ?_)
      (disjoint_after (fun _ _ h => Step.allOf.inj h) _) ?_
    · rw [List.getElem?_zipIdx, Option.map_eq_some_iff] at hi
      obtain ⟨sub, hi, rfl⟩ := hi
      obtain ⟨report, hreport, hreports⟩ := hrec subschemas i sub hallOf hi
        (schemaPath ++ "/allOf/" ++ toString i)
      rw [missingInAllOf_eq hallOf hi]
      refine ⟨report, ?_, reports_after _ hreports⟩
      rw [Nat.zero_add]
      exact hreport
    · rintro i _ ⟨e, ⟨subschemas', _, hallOf', hi, -⟩, -⟩
      cases hallOf.symm.trans hallOf'
      rw [List.length_zipIdx]
      exact (List.getElem?_eq_some_iff.mp hi).1
  · refine ⟨[], ?_, Reports.nil ?_⟩
    · unfold collectInAllOf
      split
      · next subschemas heq => exact absurd ⟨subschemas, heq⟩ hallOf
      · rfl
    · rintro _ ⟨i, e, ⟨subschemas, _, heq, -⟩, -⟩
      exact hallOf ⟨subschemas, heq⟩

/-! ## One node -/

theorem mem_children_of_property {properties : Members} {name : String} {sub : Json} {i : Nat}
    (hproperties : schema.member? "properties" = some (.obj properties))
    (hi : properties[i]? = some (name, sub)) : sub ∈ children pointerGet root schema := by
  unfold children
  rw [hproperties]
  simp only [List.mem_append]
  exact .inl (.inl (.inl (List.mem_map_of_mem (List.mem_of_getElem? hi))))

theorem mem_children_of_items {items : Json} (hitems : schema.member? "items" = some items) :
    items ∈ children pointerGet root schema := by
  unfold children
  rw [hitems]
  simp only [List.mem_append]
  exact .inl (.inl (.inr (List.mem_singleton_self items)))

theorem mem_children_of_allOf {subschemas : List Json} {sub : Json} {i : Nat}
    (hallOf : schema.member? "allOf" = some (.arr subschemas))
    (hi : subschemas[i]? = some sub) : sub ∈ children pointerGet root schema := by
  unfold children
  rw [hallOf]
  simp only [List.mem_append]
  exact .inl (.inr (List.mem_of_getElem? hi))

theorem mem_children_of_target {node target : Json} {ref : String} (href : node.ref? = some ref)
    (htarget : refTarget pointerGet root ref = some target) :
    target ∈ children pointerGet root node := by
  unfold children
  rw [href, Option.bind_some, htarget]
  simp only [List.mem_append]
  exact .inr (List.mem_singleton_self target)

/-- `resolveRef` gives a node itself, or what it refers to. -/
theorem resolveRef_of_ref?_eq_none {node : Json} (hobject : node.isObject = true)
    (href : node.ref? = none) : resolveRef pointerGet node root = some (some node) := by
  cases node with
  | obj members =>
      have hget : (Json.obj members).findMember "$ref" = some (members.lookup "$ref") := rfl
      have hnone : (members.lookup "$ref").bind cString? = none := href
      rw [resolveRef, hget]
      cases hmember : members.lookup "$ref" with
      | none => rfl
      | some value =>
          rw [hmember] at hnone
          cases value with
          | str s => exact nomatch hnone
          | _ => rfl
  | _ => exact nomatch hobject

theorem resolveRef_of_ref?_eq_some {node : Json} {ref : String} (href : node.ref? = some ref) :
    resolveRef pointerGet node root = some (refTarget pointerGet root ref) := by
  cases node with
  | obj members =>
      have hget : (Json.obj members).findMember "$ref" = some (members.lookup "$ref") := rfl
      have hsome : (members.lookup "$ref").bind cString? = some ref := href
      rw [resolveRef, hget]
      cases hmember : members.lookup "$ref" with
      | none =>
          rw [hmember] at hsome
          exact nomatch hsome
      | some value =>
          rw [hmember] at hsome
          cases value with
          | str s =>
              cases hsome
              simp only [refTarget]
              split_ifs <;> rfl
          | _ => exact nomatch hsome
  | _ => exact nomatch href

/-- What a route begins with. -/
def RequiredName.branch (e : RequiredName) : Nat :=
  match e.route with
  | [] => 0
  | .property _ :: _ => 1
  | .item _ :: _ => 2
  | .allOf _ :: _ => 3

theorem disjoint_of_branch {S T : Set RequiredName} {k : Nat} (hS : ∀ e ∈ S, e.branch < k)
    (hT : ∀ e ∈ T, e.branch = k) : ∀ e ∈ S, e ∉ T := by
  intro e he he'
  have := hS e he
  have := hT e he'
  omega

/-- The collection at a node that stands for `schema`, from those below. -/
theorem collects_succ {node : Json}
    (hresolved : resolveRef pointerGet node root = some (some schema))
    (hobject : schema.isObject = true) (hnode : ∀ s, resolves node s ↔ s = schema)
    (hproperties : ∀ (properties members : Members) (i : Nat) (name : String) (sub child : Json),
      schema.member? "properties" = some (.obj properties) → inst = .obj members →
        properties[i]? = some (name, sub) → members.lookup name = some child →
          Collects pointerGet root resolves n sub child (path ++ [.member name]))
    (hitems : ∀ (items : Members) (elements : List Json) (i : Nat) (element : Json),
      schema.member? "items" = some (.obj items) → inst = .arr elements →
        elements[i]? = some element →
          Collects pointerGet root resolves n (.obj items) element (path ++ [.element i]))
    (hallOf : ∀ (subschemas : List Json) (i : Nat) (sub : Json),
      schema.member? "allOf" = some (.arr subschemas) → subschemas[i]? = some sub →
        Collects pointerGet root resolves n sub inst path) :
    Collects pointerGet root resolves (n + 1) node inst path := by
  intro schemaPath
  obtain ⟨inProperties, hinProperties, hreportsProperties⟩ :=
    reports_inProperties (node.refOr schemaPath) hproperties
  obtain ⟨inItems, hinItems, hreportsItems⟩ := reports_inItems (node.refOr schemaPath) hitems
  obtain ⟨inAllOf, hinAllOf, hreportsAllOf⟩ := reports_inAllOf (node.refOr schemaPath) hallOf
  rw [collectMissingRequired_succ hresolved hobject, hinProperties, Option.bind_some, hinItems,
    Option.bind_some, hinAllOf, Option.bind_some]
  refine ⟨_, rfl, ?_⟩
  rw [missing_eq hnode]
  -- the four parts are told apart by the first step of the route
  have hhere : ∀ e ∈ {e | ∃ i, e ∈ missingHere schema inst path i}, e.branch = 0 := by
    rintro e ⟨i, hroute, -⟩
    unfold RequiredName.branch
    rw [hroute]
  have hproperty : ∀ e ∈ {e | ∃ i, e ∈ RequiredName.after (.property i) ''
      missingInProperty resolves schema inst path i}, e.branch = 1 := by
    rintro _ ⟨i, e, -, rfl⟩
    rfl
  have hitem : ∀ e ∈ {e | ∃ i, e ∈ RequiredName.after (.item i) ''
      missingInItem resolves schema inst path i}, e.branch = 2 := by
    rintro _ ⟨i, e, -, rfl⟩
    rfl
  have hall : ∀ e ∈ {e | ∃ i, e ∈ RequiredName.after (.allOf i) ''
      missingInAllOf resolves schema inst path i}, e.branch = 3 := by
    rintro _ ⟨i, e, -, rfl⟩
    rfl
  refine ((reports_missingRequired.append hreportsProperties ?_).append hreportsItems ?_).append
    hreportsAllOf ?_
  · exact disjoint_of_branch (fun e he => hhere e he ▸ Nat.zero_lt_one) hproperty
  · refine disjoint_of_branch (fun e he => ?_) hitem
    rcases he with he | he
    · exact hhere e he ▸ Nat.zero_lt_two
    · exact hproperty e he ▸ Nat.one_lt_two
  · refine disjoint_of_branch (fun e he => ?_) hall
    rcases he with (he | he) | he
    · exact hhere e he ▸ Nat.zero_lt_succ 2
    · exact hproperty e he ▸ Nat.succ_lt_succ Nat.zero_lt_two
    · exact hitem e he ▸ Nat.lt_succ_self 2

/-- A node that refers to a reference has nothing collected. -/
theorem collectMissingRequired_of_chain {node value : Json}
    (hresolved : resolveRef pointerGet node root = some (some (.obj [("$ref", value)]))) :
    collectMissingRequired pointerGet root (n + 1) node inst (jsonPath path) schemaPath =
      some [] := by
  have hget : ∀ key, key ≠ "$ref" → (Json.obj [("$ref", value)]).member? key = none := by
    intro key hkey
    have hlookup : [("$ref", value)].lookup key = none := by
      rw [List.lookup_cons, beq_false_of_ne hkey]
      rfl
    exact hlookup
  have hproperties : collectInProperties pointerGet root n (.obj [("$ref", value)]) inst
      (jsonPath path) (node.refOr schemaPath) = some [] := by
    unfold collectInProperties
    rw [hget "properties" (by decide)]
  have hitems : collectInItems pointerGet root n (.obj [("$ref", value)]) inst
      (jsonPath path) (node.refOr schemaPath) = some [] := by
    unfold collectInItems
    rw [hget "items" (by decide)]
  have hallOf : collectInAllOf pointerGet root n (.obj [("$ref", value)]) inst
      (jsonPath path) (node.refOr schemaPath) = some [] := by
    unfold collectInAllOf
    rw [hget "allOf" (by decide)]
  have hrequired : missingRequired (.obj [("$ref", value)]) inst (jsonPath path)
      (node.refOr schemaPath) = [] := by
    unfold missingRequired
    rw [hget "required" (by decide)]
  rw [collectMissingRequired_succ hresolved rfl, hproperties, hitems, hallOf, hrequired, ite_self]
  rfl

end

/-! ## Whole documents -/

section

variable {pointerGet : String → Json → Option Json} {root : Json}

theorem Direct.resolves {node schema : Json} (h : Direct pointerGet root node schema) :
    Resolves pointerGet root node schema := by
  obtain ⟨href, rfl⟩ | ⟨ref, href, htarget, hplain⟩ := h
  · exact .here href
  · exact .follow href htarget (.here hplain)

/-- A node that is no reference stands for itself. -/
theorem direct_iff_of_ref?_eq_none {node schema : Json} (href : node.ref? = none) :
    Direct pointerGet root node schema ↔ schema = node := by
  constructor
  · rintro (⟨-, hsame⟩ | ⟨ref, hsome, -⟩)
    · exact hsame
    · exact nomatch hsome.symm.trans href
  · exact fun hsame => .inl ⟨href, hsame⟩

/-- A reference stands for what it leads to, if that is no reference. -/
theorem direct_iff_of_ref?_eq_some {node target schema : Json} {ref : String}
    (href : node.ref? = some ref) (htarget : refTarget pointerGet root ref = some target) :
    Direct pointerGet root node schema ↔ schema = target ∧ target.ref? = none := by
  constructor
  · rintro (⟨hnone, -⟩ | ⟨ref', hsome, htarget', hplain⟩)
    · exact nomatch hnone.symm.trans href
    · cases hsome.symm.trans href
      cases htarget'.symm.trans htarget
      exact ⟨rfl, hplain⟩
  · rintro ⟨rfl, hplain⟩
    exact .inr ⟨ref, href, htarget, hplain⟩

/-- The code collects what is missing by the subschemas reached without a chain. -/
theorem collects_direct (hfragment : InFragment pointerGet root) (n : Nat) :
    ∀ (node inst : Json) (path : List Place), Node pointerGet root node →
      (∀ route schema part partPath, Applies (Direct pointerGet root) node inst path route schema
        part partPath → route.length < n) →
      Collects pointerGet root (Direct pointerGet root) n node inst path := by
  induction n with
  | zero =>
      intro node inst path _ hdepth schemaPath
      refine ⟨[], rfl, Reports.nil ?_⟩
      rintro e ⟨schema, members, happlies, -⟩
      exact absurd (hdepth _ _ _ _ happlies) (Nat.not_lt_zero _)
  | succ n ih =>
      intro node inst path hin hdepth
      -- from what a node stands for to the nodes below it
      have hbelow : ∀ schema, resolveRef pointerGet node root = some (some schema) →
          Node pointerGet root schema →
            (∀ s, Direct pointerGet root node s ↔ s = schema) →
              Collects pointerGet root (Direct pointerGet root) (n + 1) node inst path := by
        intro schema hresolved hschema hnode
        have hdirect := (hnode schema).mpr rfl
        refine collects_succ hresolved (hfragment.isObject schema hschema) hnode ?_ ?_ ?_
        · rintro properties members i name sub child hproperties rfl hi hchild
          refine ih sub child _ (hschema.child (mem_children_of_property hproperties hi)) ?_
          intro route target part partPath hroute
          exact Nat.lt_of_succ_lt_succ
            (hdepth _ _ _ _ (.property hdirect hproperties hi hchild hroute))
        · rintro items elements i element hitems rfl hi
          refine ih _ element _ (hschema.child (mem_children_of_items hitems)) ?_
          intro route target part partPath hroute
          exact Nat.lt_of_succ_lt_succ (hdepth _ _ _ _ (.item hdirect hitems hi hroute))
        · intro subschemas i sub hallOf hi
          refine ih sub inst path (hschema.child (mem_children_of_allOf hallOf hi)) ?_
          intro route target part partPath hroute
          exact Nat.lt_of_succ_lt_succ (hdepth _ _ _ _ (.allOf hdirect hallOf hi hroute))
      cases href : node.ref? with
      | none =>
          exact hbelow node (resolveRef_of_ref?_eq_none (hfragment.isObject node hin) href) hin
            fun _ => direct_iff_of_ref?_eq_none href
      | some ref =>
          obtain ⟨target, htarget⟩ := hfragment.target node ref hin href
          have hresolved : resolveRef pointerGet node root = some (some target) := by
            rw [resolveRef_of_ref?_eq_some href, htarget]
          have htargetIn : Node pointerGet root target :=
            hin.child (mem_children_of_target href htarget)
          cases hchain : target.ref? with
          | none =>
              -- one reference, followed
              refine hbelow target hresolved htargetIn fun s => ?_
              rw [direct_iff_of_ref?_eq_some href htarget]
              exact and_iff_left hchain
          | some ref' =>
              -- a reference to a reference, which has no keywords to look into
              intro schemaPath
              obtain ⟨value, rfl⟩ := hfragment.alone target ref' htargetIn hchain
              refine ⟨[], collectMissingRequired_of_chain hresolved, ?_⟩
              refine Reports.nil (not_mem_missing fun s hs => ?_)
              obtain ⟨-, hplain⟩ := (direct_iff_of_ref?_eq_some href htarget).mp hs
              exact nomatch hplain.symm.trans hchain

/-- The report has exactly one line for each object and each name that it is missing, and nothing
else. -/
def Reported (pointerGet : String → Json → Option Json) (schema doc : Json) : Prop :=
  ∃ report, collectMissingRequiredFields pointerGet schema doc = some report ∧
    Reports Says (missingNames (Resolves pointerGet schema) schema doc) report

/-- What an object is missing is required once by the subschemas that apply to it without a chain of
references. -/
def RequiredOnce (pointerGet : String → Json → Option Json) (schema doc : Json) : Prop :=
  ∀ m ∈ missingNames (Resolves pointerGet schema) schema doc,
    ∃! e : RequiredName, e ∈ missing (Direct pointerGet schema) schema doc [] ∧ e.toMissingName = m

/-- For a schema in the fragment and a document that needs no route longer than the depth cap, the
report has exactly one line for each name that an object is missing, and nothing else, if the name
is required once without a chain of references; and only then, where the texts of the lines tell
what is missing. -/
theorem missingFields_reported_iff {schema doc : Json} (hfragment : InFragment pointerGet schema)
    (hdepth : ∀ route target part path, Applies (Resolves pointerGet schema) schema doc [] route
      target part path → route.length ≤ 64) :
    (RequiredOnce pointerGet schema doc → Reported pointerGet schema doc) ∧
      (TellsApart Says (missingNames (Resolves pointerGet schema) schema doc) →
        (Reported pointerGet schema doc ↔ RequiredOnce pointerGet schema doc)) := by
  have hmono : ∀ node target, Direct pointerGet schema node target →
      Resolves pointerGet schema node target := fun _ _ => Direct.resolves
  have hsub : ∀ e ∈ missing (Direct pointerGet schema) schema doc [],
      e.toMissingName ∈ missingNames (Resolves pointerGet schema) schema doc :=
    fun e he => ⟨e, missing_mono hmono schema doc [] he, rfl⟩
  obtain ⟨report, hreport, hreports⟩ := collects_direct hfragment 65 schema doc [] .root
    (fun route target part path happlies =>
      Nat.lt_succ_of_le (hdepth route target part path (happlies.mono hmono))) "#"
  have honce : RequiredOnce pointerGet schema doc → Reported pointerGet schema doc := by
    intro h
    have hinj : Set.InjOn RequiredName.toMissingName
        (missing (Direct pointerGet schema) schema doc []) := by
      intro e he e' he' heq
      exact (h _ (hsub e' he')).unique ⟨he, heq⟩ ⟨he', rfl⟩
    refine ⟨report, hreport, (hreports.image hinj fun _ _ hline => hline).of_eq ?_⟩
    ext m
    constructor
    · rintro ⟨e, he, rfl⟩
      exact hsub e he
    · intro hm
      obtain ⟨e, he⟩ := (h m hm).exists
      exact ⟨e, he⟩
  refine ⟨honce, fun htells => ⟨?_, honce⟩⟩
  rintro ⟨_, hsome, h⟩
  cases hreport.symm.trans hsome
  -- the line of a required name is that of no other missing name
  obtain ⟨himage, hinj⟩ := hreports.eq_image h fun e he m hm line hsays hsays' =>
    htells _ (hsub e he) m hm line hsays hsays'
  intro m hm
  rw [himage] at hm
  obtain ⟨e, he, rfl⟩ := hm
  exact ⟨e, ⟨he, rfl⟩, fun e' he' => hinj he'.1 he he'.2⟩

end

section

variable {pointerGet : String → Json → Option Json} {root node : Json}
variable {resolves : Json → Json → Prop}

/-- Nothing lies below a node without the keywords that lead on. -/
theorem route_eq_nil
    (hleaf : ∀ s, resolves node s → s.member? "properties" = none ∧ s.member? "items" = none ∧
      s.member? "allOf" = none)
    {inst target part : Json} {path partPath : List Place} {route : List Step}
    (h : Applies resolves node inst path route target part partPath) : route = [] := by
  cases h with
  | here => rfl
  | property hnode hproperties => exact nomatch (hleaf _ hnode).1.symm.trans hproperties
  | item hnode hitems => exact nomatch (hleaf _ hnode).2.1.symm.trans hitems
  | allOf hnode hallOf => exact nomatch (hleaf _ hnode).2.2.symm.trans hallOf

/-- A list of the nodes that has the nodes below each of its own. -/
theorem inFragment_of_nodes (nodes : List Json) (hroot : root ∈ nodes)
    (hchildren : ∀ node ∈ nodes, ∀ child ∈ children pointerGet root node, child ∈ nodes)
    (hobject : ∀ node ∈ nodes, node.isObject = true)
    (href : ∀ node ∈ nodes, ∀ ref, node.ref? = some ref →
      (∃ value, node = .obj [("$ref", value)]) ∧
        ∃ target, refTarget pointerGet root ref = some target) : InFragment pointerGet root := by
  have hnodes : ∀ node, Node pointerGet root node → node ∈ nodes := by
    intro node h
    induction h with
    | root => exact hroot
    | child _ hchild ih => exact hchildren _ ih _ hchild
  exact
    { isObject := fun node h => hobject node (hnodes node h)
      alone := fun node ref h hsome => (href node (hnodes node h) ref hsome).1
      target := fun node ref h hsome => (href node (hnodes node h) ref hsome).2 }

theorem resolves_plain (href : node.ref? = none) {s : Json}
    (h : Resolves pointerGet root node s) : s = node := by
  cases h with
  | here => rfl
  | follow hsome => exact nomatch hsome.symm.trans href

theorem resolves_target {target : Json} {ref : String} (href : node.ref? = some ref)
    (htarget : refTarget pointerGet root ref = some target) {s : Json}
    (h : Resolves pointerGet root node s) : Resolves pointerGet root target s := by
  cases h with
  | here hnone => exact nomatch hnone.symm.trans href
  | follow hsome htarget' hrest =>
      cases hsome.symm.trans href
      cases htarget'.symm.trans htarget
      exact hrest

end

/-- A JSON pointer without escapes, into objects. -/
def pointerInto (pointer : String) (v : Json) : Option Json :=
  ((pointer.toList.splitOn '/').drop 1).foldl
    (fun found token => found.bind (member? (String.ofList token))) (some v)

def requiresX : Json := .obj [("required", .arr [.str "x"])]

def referTo (name : String) : Json := .obj [("$ref", .str ("#/definitions/" ++ name))]

/-- A schema that is `A`, with the definitions. -/
def allOfA (definitions : Members) : Json :=
  .obj [("allOf", .arr [referTo "A"]), ("definitions", .obj definitions)]

def oneReference : Json := allOfA [("A", requiresX)]

def twoReferences : Json := allOfA [("A", referTo "B"), ("B", requiresX)]

theorem inFragment_oneReference : InFragment pointerInto oneReference := by
  have hroot : ∀ child ∈ [referTo "A"], child ∈ [oneReference, referTo "A", requiresX] :=
    List.forall_mem_singleton.mpr (.tail _ (.head _))
  have hA : ∀ child ∈ [requiresX], child ∈ [oneReference, referTo "A", requiresX] :=
    List.forall_mem_singleton.mpr (.tail _ (.tail _ (.head _)))
  refine inFragment_of_nodes [oneReference, referTo "A", requiresX] (.head _) ?_ ?_ ?_
  · exact List.forall_mem_cons.mpr ⟨hroot, List.forall_mem_cons.mpr ⟨hA,
      List.forall_mem_singleton.mpr (List.forall_mem_nil _)⟩⟩
  · exact List.forall_mem_cons.mpr ⟨rfl, List.forall_mem_cons.mpr ⟨rfl,
      List.forall_mem_singleton.mpr rfl⟩⟩
  · refine List.forall_mem_cons.mpr ⟨(fun _ h => nomatch h), List.forall_mem_cons.mpr
      ⟨fun ref h => ?_, List.forall_mem_singleton.mpr fun _ h => nomatch h⟩⟩
    cases h
    exact ⟨⟨_, rfl⟩, requiresX, rfl⟩

theorem inFragment_twoReferences : InFragment pointerInto twoReferences := by
  have hroot : ∀ child ∈ [referTo "A"],
      child ∈ [twoReferences, referTo "A", referTo "B", requiresX] :=
    List.forall_mem_singleton.mpr (.tail _ (.head _))
  have hA : ∀ child ∈ [referTo "B"],
      child ∈ [twoReferences, referTo "A", referTo "B", requiresX] :=
    List.forall_mem_singleton.mpr (.tail _ (.tail _ (.head _)))
  have hB : ∀ child ∈ [requiresX],
      child ∈ [twoReferences, referTo "A", referTo "B", requiresX] :=
    List.forall_mem_singleton.mpr (.tail _ (.tail _ (.tail _ (.head _))))
  refine inFragment_of_nodes [twoReferences, referTo "A", referTo "B", requiresX] (.head _) ?_ ?_ ?_
  · exact List.forall_mem_cons.mpr ⟨hroot, List.forall_mem_cons.mpr ⟨hA,
      List.forall_mem_cons.mpr ⟨hB, List.forall_mem_singleton.mpr (List.forall_mem_nil _)⟩⟩⟩
  · exact List.forall_mem_cons.mpr ⟨rfl, List.forall_mem_cons.mpr ⟨rfl,
      List.forall_mem_cons.mpr ⟨rfl, List.forall_mem_singleton.mpr rfl⟩⟩⟩
  · refine List.forall_mem_cons.mpr ⟨(fun _ h => nomatch h), List.forall_mem_cons.mpr
      ⟨fun ref h => ?_, List.forall_mem_cons.mpr
        ⟨fun ref h => ?_, List.forall_mem_singleton.mpr fun _ h => nomatch h⟩⟩⟩
    · cases h
      exact ⟨⟨_, rfl⟩, referTo "B", rfl⟩
    · cases h
      exact ⟨⟨_, rfl⟩, requiresX, rfl⟩

/-- The schema itself and what stands in its `allOf` are all that applies, if that is
`requiresX`. -/
theorem applies_allOfA {pointerGet : String → Json → Option Json} {definitions : Members}
    (hA : ∀ s, Resolves pointerGet (allOfA definitions) (referTo "A") s → s = requiresX)
    {doc target part : Json} {path : List Place} {route : List Step}
    (h : Applies (Resolves pointerGet (allOfA definitions)) (allOfA definitions) doc [] route
      target part path) :
    part = doc ∧ path = [] ∧ (route = [] ∧ target = allOfA definitions ∨
      route = [.allOf 0] ∧ target = requiresX) := by
  cases h with
  | here hnode => exact ⟨rfl, rfl, .inl ⟨rfl, resolves_plain rfl hnode⟩⟩
  | property hnode hproperties =>
      cases resolves_plain rfl hnode
      exact nomatch hproperties
  | item hnode hitems =>
      cases resolves_plain rfl hnode
      exact nomatch hitems
  | @allOf _ _ _ _ _ _ _ _ _ i rest hnode hallOf hi happlies =>
      cases resolves_plain rfl hnode
      cases hallOf
      cases i with
      | zero =>
          cases hi
          have hnil := route_eq_nil (fun s hs => by
            rw [hA s hs]
            exact ⟨rfl, rfl, rfl⟩) happlies
          rw [hnil] at happlies ⊢
          cases happlies with
          | here hs => exact ⟨rfl, rfl, .inr ⟨rfl, hA _ hs⟩⟩
      | succ i => exact nomatch hi

theorem depth_allOfA {pointerGet : String → Json → Option Json} {definitions : Members}
    (hA : ∀ s, Resolves pointerGet (allOfA definitions) (referTo "A") s → s = requiresX)
    {doc target part : Json} {path : List Place} {route : List Step}
    (h : Applies (Resolves pointerGet (allOfA definitions)) (allOfA definitions) doc [] route
      target part path) : route.length ≤ 64 := by
  obtain ⟨-, -, ⟨rfl, -⟩ | ⟨rfl, -⟩⟩ := applies_allOfA hA h
  · exact Nat.zero_le _
  · exact Nat.le_add_left 1 63

theorem missingFields_reported_iff_oneReference :
    Reported pointerInto oneReference (.obj []) := by
  have href : (referTo "A").ref? = some "#/definitions/A" := rfl
  have hA : ∀ s, Resolves pointerInto oneReference (referTo "A") s → s = requiresX :=
    fun s h => resolves_plain rfl (resolves_target href rfl h)
  have honly : ∀ e ∈ missing (Resolves pointerInto oneReference) oneReference (.obj []) [],
      e = ⟨⟨[], "x"⟩, [.allOf 0], 0⟩ := by
    rintro ⟨⟨path, name⟩, route, index⟩ ⟨target, members, happlies, hrequired, -⟩
    obtain ⟨-, hpath, ⟨-, rfl⟩ | ⟨hroute, rfl⟩⟩ := applies_allOfA hA happlies
    · obtain ⟨_, _, hnames, -⟩ := hrequired
      exact nomatch hnames
    · obtain ⟨names, value, hnames, hindex, hname⟩ := hrequired
      cases hnames
      cases hpath
      cases hroute
      cases index with
      | zero =>
          cases hindex
          cases hname
          rfl
      | succ index => exact nomatch hindex
  refine (missingFields_reported_iff inFragment_oneReference fun _ _ _ _ h =>
    depth_allOfA hA h).1 ?_
  rintro _ ⟨e, he, rfl⟩
  cases honly e he
  refine ⟨⟨⟨[], "x"⟩, [.allOf 0], 0⟩, ⟨⟨requiresX, [], ?_, ⟨_, _, rfl, rfl, rfl⟩, rfl⟩, rfl⟩, ?_⟩
  · exact .allOf (.inl ⟨rfl, rfl⟩) rfl rfl (.here (.inr ⟨_, href, rfl, rfl⟩))
  · rintro e' ⟨he', -⟩
    exact honly e' (missing_mono (fun _ _ => Direct.resolves) _ _ _ he')

/-- A reference to a reference: what is missing is not reported. -/
theorem chain_not_reported :
    InFragment pointerInto twoReferences ∧
      (∀ route target part path, Applies (Resolves pointerInto twoReferences) twoReferences
        (.obj []) [] route target part path → route.length ≤ 64) ∧
      collectMissingRequiredFields pointerInto twoReferences (.obj []) = some [] ∧
      ¬ Reported pointerInto twoReferences (.obj []) := by
  have hrefA : (referTo "A").ref? = some "#/definitions/A" := rfl
  have hrefB : (referTo "B").ref? = some "#/definitions/B" := rfl
  have hA : ∀ s, Resolves pointerInto twoReferences (referTo "A") s → s = requiresX :=
    fun s h => resolves_plain rfl (resolves_target hrefB rfl (resolves_target hrefA rfl h))
  have hnone : collectMissingRequiredFields pointerInto twoReferences (.obj []) = some [] := rfl
  refine ⟨inFragment_twoReferences, fun _ _ _ _ h => depth_allOfA hA h, hnone, ?_⟩
  rintro ⟨report, hreport, things, -, hmem, hlines⟩
  cases hnone.symm.trans hreport
  have hmissing : RequiredName.mk ⟨[], "x"⟩ [.allOf 0] 0 ∈
      missing (Resolves pointerInto twoReferences) twoReferences (.obj []) [] := by
    refine ⟨requiresX, [], .allOf (.here rfl) rfl rfl (.here ?_), ⟨_, _, rfl, rfl, rfl⟩, rfl⟩
    exact .follow hrefA rfl (.follow hrefB rfl (.here rfl))
  have hthing := (hmem _).mpr ⟨_, hmissing, rfl⟩
  cases hlines
  exact nomatch hthing

end Json

end V2XHub.Validation
