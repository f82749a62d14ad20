import Liquid.Host.Adapter
import Liquid.Value.Write

/-!
# Sample host objects

Types to try the engine with: two that describe their own members, `Person` and `Product`, and
four that only adapters make visible. Each object has a main text, that of its first field. The
names of the types stand behind a path that the host chooses.
-/

namespace Liquid

namespace Sample

inductive Species where
  | person
  | product
  | foo
  | secret
  | nested
  | plain
deriving Repr, DecidableEq

namespace Species

def name : Species → String
  | person => "Person"
  | product => "Product"
  | foo => "Foo"
  | secret => "Secret"
  | nested => "Nested"
  | plain => "Opaque"

def all : List Species := [person, product, foo, secret, nested, plain]

def ofName? (name : String) : Option Species := all.find? fun s => s.name == name

def isNative : Species → Bool
  | person => true
  | product => true
  | _ => false

/-- The fields with what they hold unless it is given; the first one is the main text. -/
def fields : Species → List (String × Value)
  | person => [("name", .str ""), ("age", .int 0)]
  | product => [("name", .str ""), ("price", .int 0), ("extra", .nil)]
  | foo => [("text", .str "")]
  | secret => [("visible", .str ""), ("hidden", .str "")]
  | nested => [("name", .str ""), ("nested", .nil)]
  | plain => []

end Species

def typeName (path : String) (s : Species) : String := path ++ s.name

/-- An object with some of its fields given. -/
def object (path : String) (s : Species) (given : List (String × Value)) : Fresh Value :=
  Fresh.object (typeName path s) s.isNative <|
    s.fields.map fun (name, missing) => (name, (Entries.get? name given).getD missing)

def field (o : HostObject Value) (name : String) : Value :=
  (Entries.get? name o.fields).getD .nil

def mainText (o : HostObject Value) : String :=
  match o.fields with
  | (_, v) :: _ => v.plain
  | [] => "opaque"

def reads (name : String) : String × Getter := (name, fun o => return field o name)

/-! ### Native types -/

/-- The rest of a text behind its beginning. -/
def behind? (beginning s : String) : Option String :=
  let b := beginning.toList
  if b.isPrefixOf s.toList then some (String.ofList (s.toList.drop b.length)) else none

def person : NativeType :=
  { members := [reads "name", reads "age"]
    beforeMethod := fun o name =>
      return (behind? "greet_" name).map fun who =>
        .str (mainText o ++ " greets " ++ who) }

def product : NativeType :=
  { members := [reads "name", reads "price", reads "extra"]
    beforeMethod := fun _ _ => return none }

def natives (path : String) (type : String) : Option NativeType :=
  if type = typeName path .person then some person
  else if type = typeName path .product then some product
  else none

/-! ### Adapters -/

/-- The fields that adapters read. -/
def Species.readable : Species → List String
  | person => ["name", "age"]
  | product => ["name", "price"]
  | foo => ["text"]
  | secret => ["visible", "hidden"]
  | nested => ["name", "nested"]
  | plain => []

/-- A nested object is handed out as a new one each time. -/
def renewed (v : Value) : Fresh Value :=
  match v with
  | .object o => Fresh.object o.type o.native o.fields
  | v => return v

/-- Names of people and products are marked, to tell adapters from native members. -/
def readField (s : Species) (name : String) (o : HostObject Value) : Fresh Value :=
  match s, name with
  | .person, "name" => return .str ("~" ++ mainText o)
  | .product, "name" => return .str ("~" ++ mainText o)
  | _, _ => renewed (field o name)

def getter (s : Species) (name : String) : Getter := fun o =>
  if s.readable.contains name then readField s name o
  else
    return match name with
      | "main" => .str (mainText o)
      | "nil" => .nil
      | "list" => .array [.str (mainText o), .str (mainText o)]
      | other => .str ("?" ++ other)

def transform? (path name : String) : Option (HostObject Value → Fresh Value) :=
  match name with
  | "text" => some fun o => return .str (mainText o)
  | "prefix" => some fun o => return .str ("Foo" ++ mainText o)
  | "hash" => some fun o => return .hash [("kind", .str "hash"), ("text", .str (mainText o))]
  | "array" => some fun o => return .array [.str (mainText o), .str "second"]
  | "int" => some fun o => return .ofNat (mainText o).length
  | "nil" => some fun _ => return .nil
  | "object" => some fun _ => object path .plain []
  | _ => none

def catchAll? (name : String) : Option (HostObject Value → String → Fresh (Option Value)) :=
  match name with
  | "len" => some fun _ asked => return some (.ofNat asked.utf8ByteSize)
  | "x" => some fun o asked =>
    return (behind? "x_" asked).map fun rest => .str (mainText o ++ "/" ++ rest)
  | "nil" => some fun _ _ => return some .nil
  | _ => none

/-- An adapter for a species by the names of its parts; `only` narrows what is visible. -/
def adapter (path : String) (s : Species) (members : List String) (only : Option (List String))
    (transform catchAll : Option String) : Adapter :=
  { members := members.map fun name => (name, getter s name)
    visibility :=
      match only with
      | some names => .only names
      | none => .all
    transform := transform.bind (transform? path)
    catchAll := catchAll.bind catchAll? }

end Sample

end Liquid
