import V2XHub.Lib.SwapErase

/-!
# JSON documents

The validation plugin works on `rapidjson` values: objects are ordered lists of members, a name may
stand in one object more than once and lookups find the first. Member lookup asserts that it is
given an object, and `GetInt` that it is given an integer of 32 bits. Both are partial here, with
`none` for the assertion.
-/

namespace V2XHub.Validation

/-- `rapidjson::Value`. Numbers keep the form they were parsed to. -/
inductive Json
  | null
  | bool (b : Bool)
  | int (z : Int)
  /-- by its IEEE bits -/
  | double (bits : UInt64)
  | str (s : String)
  | arr (elements : List Json)
  | obj (members : List (String × Json))

namespace Json

/-- `GetString` as a C string. -/
def cString (s : String) : String := String.ofList (s.toList.takeWhile (· ≠ '\x00'))

abbrev Members := List (String × Json)

/-- `HasMember` and `operator[]` in one. -/
def findMember (name : String) : Json → Option (Option Json)
  | .obj members => some (members.lookup name)
  | _ => none

/-- The chains `!v.HasMember(a) || !v[a].HasMember(b) || …`: what is found at the end of the chain,
or `some none` where a member is missing on the way. -/
def findPath : List String → Json → Option (Option Json)
  | [], v => some (some v)
  | name :: names, v =>
      match v.findMember name with
      | none => none
      | some none => some none
      | some (some w) => w.findPath names

def getInt : Json → Option Int
  | .int z => if -2147483648 ≤ z ∧ z ≤ 2147483647 then some z else none
  | _ => none

/-- The conditional reads `HasMember(n) ? v[n].GetInt() : missing`. -/
def getIntOr (missing : Int) : Option Json → Option Int
  | some v => v.getInt
  | none => some missing

/-- The guard `v.IsArray()` and the elements. -/
def elements? : Json → Option (List Json)
  | .arr elements => some elements
  | _ => none

/-! ## Leaving members out -/

mutual

/-- `stripTimestamps`: a copy without the members called `timeStamp`, at any depth. Names are
compared as C strings. -/
def stripTimestamps : Json → Json
  | .obj members => .obj (stripMembers members)
  | .arr elements => .arr (stripElements elements)
  | v => v

def stripMembers : Members → Members
  | [] => []
  | (name, value) :: members =>
      if cString name = "timeStamp" then stripMembers members
      else (name, stripTimestamps value) :: stripMembers members

def stripElements : List Json → List Json
  | [] => []
  | v :: elements => stripTimestamps v :: stripElements elements

end

def named (name : String) (m : String × Json) : Bool := m.1 = name

/-- `RemoveMember`: the last member takes the place of the one removed. Without a member of that
name nothing happens, and a `HasMember` in front of it changes nothing. -/
def removeMember (name : String) (members : Members) : Members :=
  Lib.swapErase (named name) members

/-! ## Text -/

def escape (c : Char) : String :=
  if c = '"' then "\\\"" else if c = '\\' then "\\\\" else c.toString

def quote (s : String) : String := "\"" ++ String.join (s.toList.map escape) ++ "\""

mutual

/-- The text of a value on one line, for values without doubles and without control characters. -/
def compact : Json → String
  | .null => "null"
  | .bool b => toString b
  | .int z => toString z
  | .double bits => toString bits
  | .str s => quote s
  | .arr elements => "[" ++ ",".intercalate (compactElements elements) ++ "]"
  | .obj members => "\x7b" ++ ",".intercalate (compactMembers members) ++ "\x7d"

def compactElements : List Json → List String
  | [] => []
  | v :: elements => compact v :: compactElements elements

def compactMembers : Members → List String
  | [] => []
  | (name, value) :: members => (quote name ++ ":" ++ compact value) :: compactMembers members

end

end Json

end V2XHub.Validation
