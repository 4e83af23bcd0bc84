import V2XHub.Validation.Json

/-!
# Preprocessing, and the fields that are missing

Before a document is validated, members with an empty string are taken out of it, and strings are
turned into numbers and booleans where the schema has these. What a document that fails is missing
is found by walking through the schema and the document together.

Looking up a member of what is not an object is an assertion of `rapidjson`: `none` here.
-/

namespace V2XHub.Validation

namespace Json

def isObject : Json → Bool
  | .obj _ => true
  | _ => false

/-- `FindMember` where the value is known to be an object. -/
def member? (name : String) : Json → Option Json
  | .obj members => members.lookup name
  | _ => none

/-- The names that are strings, as C strings. -/
def cString? : Json → Option String
  | .str s => some (cString s)
  | _ => none

/-! ## Empty strings -/

def isEmptyString : Json → Bool
  | .str s => s.isEmpty
  | _ => false

mutual

/-- `removeEmptyStrings`, which returns at once from what is not an object. -/
def removeEmptyStrings : Json → Json
  | .obj members => .obj (removeEmptyMembers members)
  | v => v

def removeEmptyMembers : Members → Members
  | [] => []
  | (name, value) :: members =>
      if value.isEmptyString then removeEmptyMembers members
      else (name, removeEmptyStrings value) :: removeEmptyMembers members

end

/-! ## Numbers and booleans -/

def isSpace (c : Char) : Bool := c = ' ' || ('\x09' ≤ c && c ≤ '\x0d')

/-- The value of a run of digits, cut off at the bounds of 64 bits. -/
def decimal (negative : Bool) (digits : List Char) : Int :=
  let magnitude : Int := digits.foldl (fun n c => 10 * n + (c.toNat - '0'.toNat : Nat)) 0
  if negative then max (-magnitude) (-9223372036854775808) else min magnitude 9223372036854775807

/-- `strtoll` in base 10, if it gets to the end of the string. -/
def strtoll (s : String) : Option Int :=
  let rest := (cString s).toList.dropWhile isSpace
  let (negative, digits) := match rest with
    | '-' :: rest => (true, rest)
    | '+' :: rest => (false, rest)
    | rest => (false, rest)
  if digits ≠ [] ∧ digits.all Char.isDigit then some (decimal negative digits) else none

def tryConvertToInt : Json → Json
  | .str s =>
      match strtoll s with
      | some n => .int n
      | none => .str s
  | v => v

def tryConvertToBool : Json → Json
  | .str s =>
      if cString s = "true" then .bool true
      else if cString s = "false" then .bool false
      else .str s
  | v => v

def schemaHasType (schema : Json) (typeName : String) : Bool :=
  match schema.member? "type" with
  | some (.str s) => cString s = typeName
  | some (.arr types) => types.any fun t => t.cString? = some typeName
  | _ => false

mutual

/-- The nesting depth of a value. -/
def depth : Json → Nat
  | .obj members => depthMembers members + 1
  | .arr elements => depthElements elements + 1
  | _ => 0

def depthMembers : Members → Nat
  | [] => 0
  | (_, value) :: members => max (depth value) (depthMembers members)

def depthElements : List Json → Nat
  | [] => 0
  | v :: elements => max (depth v) (depthElements elements)

end

/-- `getPropertySchema`. The first argument bounds the depth of combiners in combiners. -/
def getPropertySchemaFrom : Nat → Json → String → Option Json
  | 0, _, _ => none
  | n + 1, schema, key =>
      match (schema.member? "properties").bind (member? key) with
      | some found => some found
      | none =>
          ["oneOf", "anyOf", "allOf"].findSome? fun combiner =>
            match schema.member? combiner with
            | some (.arr branches) =>
                branches.findSome? fun branch => getPropertySchemaFrom n branch key
            | _ => none

def getPropertySchema (schema : Json) (key : String) : Option Json :=
  getPropertySchemaFrom (schema.depth + 1) schema key

def getItemsSchema (schema : Json) : Option Json :=
  (schema.member? "items").filter isObject

mutual

/-- `convertNumericStrings`. -/
def convertNumericStrings (schema : Json) : Json → Json
  | .str s =>
      if schemaHasType schema "integer" then tryConvertToInt (.str s)
      else if schemaHasType schema "boolean" then tryConvertToBool (.str s)
      else .str s
  | .obj members => .obj (convertMembers schema members)
  | .arr elements =>
      match getItemsSchema schema with
      | some itemsSchema => .arr (convertElements itemsSchema elements)
      | none => .arr elements
  | v => v

def convertMembers (schema : Json) : Members → Members
  | [] => []
  | (name, value) :: members =>
      let value := match getPropertySchema schema (cString name) with
        | none => value
        | some propSchema =>
            if schemaHasType propSchema "integer" then tryConvertToInt value
            else if schemaHasType propSchema "boolean" then tryConvertToBool value
            else convertNumericStrings propSchema value
      (name, value) :: convertMembers schema members

def convertElements (itemsSchema : Json) : List Json → List Json
  | [] => []
  | v :: elements => convertNumericStrings itemsSchema v :: convertElements itemsSchema elements

end

/-! ## Missing fields -/

section

-- `rapidjson::Pointer(..).Get`
variable (pointerGet : String → Json → Option Json)

/-- `resolveRef`: the node, or what it refers to. -/
def resolveRef (node schemaRoot : Json) : Option (Option Json) :=
  match node.findMember "$ref" with
  | none => none
  | some (some (.str s)) =>
      let ref := cString s
      if ref.toList.head? ≠ some '#' then some none
      else if ref = "#" then some (some schemaRoot)
      else some (pointerGet (String.ofList (ref.toList.drop 1)) schemaRoot)
  | some _ => some (some node)

def refOr (node : Json) (fallback : String) : String :=
  ((node.member? "$ref").bind cString?).getD fallback

def propertySchemaRef (schema : Json) (name fallback : String) : String :=
  match (schema.member? "properties").bind (member? name) with
  | some propSchema => refOr propSchema fallback
  | none => fallback

/-- The required properties that an object does not have. -/
def missingRequired (schema inst : Json) (jsonPath schemaPath : String) : List String :=
  match schema.member? "required" with
  | some (.arr names) =>
      names.filterMap fun nameValue =>
        match nameValue.cString? with
        | none => none
        | some name =>
            if (inst.member? name).isSome then none
            else some (jsonPath ++ "." ++ name ++ " is missing (" ++
              propertySchemaRef schema name (schemaPath ++ "/properties/" ++ name) ++ ")")
  | _ => []

/-- `collectMissingRequired` with `handleObject` in it. The first argument is what is left of the
depth cap. -/
def collectMissingRequired (schemaRoot : Json) :
    Nat → Json → Json → String → String → Option (List String)
  | 0, _, _, _, _ => some []
  | n + 1, schemaNode, inst, jsonPath, schemaPath => do
      let resolvedSchemaPath := refOr schemaNode schemaPath
      match ← resolveRef pointerGet schemaNode schemaRoot with
      | none => some []
      | some schema =>
          if schema.isObject = false then some []
          else do
            let missing := if inst.isObject then
                missingRequired schema inst jsonPath resolvedSchemaPath else []
            let inProperties ← match schema.member? "properties", inst with
              | some (.obj properties), .obj members =>
                  properties.mapM fun (name, propSchema) =>
                    match members.lookup name with
                    | none => some []
                    | some child => collectMissingRequired schemaRoot n propSchema child
                        (jsonPath ++ "." ++ cString name)
                        (resolvedSchemaPath ++ "/properties/" ++ cString name)
              | _, _ => some []
            let inItems ← match schema.member? "items", inst with
              | some (.obj items), .arr elements =>
                  elements.zipIdx.mapM fun (element, index) =>
                    collectMissingRequired schemaRoot n (.obj items) element
                      (jsonPath ++ "[" ++ toString index ++ "]") (resolvedSchemaPath ++ "/items")
              | _, _ => some []
            let inAllOf ← match schema.member? "allOf" with
              | some (.arr subschemas) =>
                  subschemas.zipIdx.mapM fun (sub, index) =>
                    collectMissingRequired schemaRoot n sub inst jsonPath
                      (resolvedSchemaPath ++ "/allOf/" ++ toString index)
              | _ => some []
            some (missing ++ inProperties.flatten ++ inItems.flatten ++ inAllOf.flatten)

/-- `MAX_SCHEMA_DEPTH` is 64, and depth 64 itself is visited. -/
def collectMissingRequiredFields (schema doc : Json) : Option (List String) :=
  collectMissingRequired pointerGet schema 65 schema doc "$" "#"

end

end Json

end V2XHub.Validation
