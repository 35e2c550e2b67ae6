import ViewForge.Text.Match

/-!
# Type expressions

A type as a property declares it: a name with type arguments, an array, a nullable, a tuple or the
untyped `dynamic`. Both surface spellings, `List<Order>` and `List(Of Order)`, denote one
expression, and the built-in types have one name each.
-/

namespace ViewForge

/-- A type as it is written in a declaration, up to spelling. -/
inductive TypeExpr where
  /-- A name, perhaps behind a namespace, applied to type arguments. -/
  | named (qualifier : Option String) (name : String) (args : List TypeExpr)
  /-- An array; `rank` is the number of its dimensions. -/
  | array (element : TypeExpr) (rank : Nat)
  /-- A type or null. -/
  | nullable (inner : TypeExpr)
  /-- A tuple of unnamed elements. -/
  | tuple (items : List TypeExpr)
  /-- The untyped marker. -/
  | dynamic
  deriving Repr, Inhabited

namespace TypeExpr

/-- A bare name. -/
def bare (name : String) : TypeExpr := .named none name []

/-- The keyword types. -/
def keywordTypes : List String :=
  ["bool", "byte", "sbyte", "char", "decimal", "double", "float", "int", "uint", "nint",
   "nuint", "long", "ulong", "short", "ushort", "object", "string"]

/-- The framework types that are leaves: their members are not shown. -/
def leafTypes : List String :=
  ["DateTime", "DateTimeOffset", "DateOnly", "TimeOnly", "TimeSpan", "Guid", "Uri", "Color",
   "Brush", "ImageSource", "BitmapImage", "Geopoint", "ICommand"]

/-- Other spellings of built-in types, compared without regard to ASCII case. -/
def builtinSpellings : List (String × String) :=
  [("Integer", "int"), ("Int32", "int"), ("UInteger", "uint"), ("UInt32", "uint"),
   ("Long", "long"), ("Int64", "long"), ("ULong", "ulong"), ("UInt64", "ulong"),
   ("Short", "short"), ("Int16", "short"), ("UShort", "ushort"), ("UInt16", "ushort"),
   ("Byte", "byte"), ("SByte", "sbyte"), ("Boolean", "bool"), ("String", "string"),
   ("Char", "char"), ("Single", "float"), ("Double", "double"), ("Decimal", "decimal"),
   ("Object", "object"), ("Date", "DateTime"), ("IntPtr", "nint"), ("UIntPtr", "nuint")]

/-- The one name of a built-in type that has several spellings. -/
def builtinName? (name : String) : Option String :=
  (builtinSpellings.find? fun (spelling, _) => Text.equalIgnoringCase spelling name).map (·.2)

/-- A named type under its one name: `dynamic` and `Nullable` with one argument are shapes of their
own, and the spellings of a built-in type agree. Only names without a namespace or in `System` are
built in. -/
def ofName (qualifier : Option String) (name : String) (args : List TypeExpr) : TypeExpr :=
  let builtinScope := qualifier == none || qualifier == some "System"
  match args with
  | [] =>
    if qualifier == none && name == "dynamic" then .dynamic
    else if builtinScope then
      match builtinName? name with
      | some keyword => bare keyword
      | none => .named qualifier name []
    else .named qualifier name []
  | [inner] =>
    if builtinScope && name == "Nullable" then .nullable inner else .named qualifier name [inner]
  | args => .named qualifier name args

/-! ## Equality -/

mutual

/-- Whether two types are equal. -/
def same : TypeExpr → TypeExpr → Bool
  | .named q n as, .named q' n' as' => q == q' && n == n' && sameAll as as'
  | .array t r, .array t' r' => r == r' && same t t'
  | .nullable t, .nullable t' => same t t'
  | .tuple ts, .tuple ts' => sameAll ts ts'
  | .dynamic, .dynamic => true
  | _, _ => false

/-- Whether two lists of types are equal. -/
def sameAll : List TypeExpr → List TypeExpr → Bool
  | [], [] => true
  | t :: ts, t' :: ts' => same t t' && sameAll ts ts'
  | _, _ => false

end

mutual

theorem same_iff : ∀ a b : TypeExpr, same a b = true ↔ a = b
  | .named q n as, .named q' n' as' => by simp [same, sameAll_iff as as', and_assoc]
  | .array t r, .array t' r' => by simp [same, same_iff t t', and_comm]
  | .nullable t, .nullable t' => by simp [same, same_iff t t']
  | .tuple ts, .tuple ts' => by simp [same, sameAll_iff ts ts']
  | .dynamic, b => by cases b <;> simp [same]
  | .named .., .array .. | .named .., .nullable _ | .named .., .tuple _ | .named .., .dynamic
  | .array .., .named .. | .array .., .nullable _ | .array .., .tuple _ | .array .., .dynamic
  | .nullable _, .named .. | .nullable _, .array .. | .nullable _, .tuple _
  | .nullable _, .dynamic | .tuple _, .named .. | .tuple _, .array .. | .tuple _, .nullable _
  | .tuple _, .dynamic => by simp [same]

theorem sameAll_iff : ∀ as bs : List TypeExpr, sameAll as bs = true ↔ as = bs
  | [], [] => by simp [sameAll]
  | [], _ :: _ => by simp [sameAll]
  | _ :: _, [] => by simp [sameAll]
  | t :: ts, t' :: ts' => by simp [sameAll, same_iff t t', sameAll_iff ts ts']

end

instance : DecidableEq TypeExpr := fun a b => decidable_of_iff _ (same_iff a b)

/-! ## Printing -/

mutual

/-- The characters of a type's text: angle brackets around arguments, no namespaces. -/
def letters : TypeExpr → List Char
  | .named _ name args =>
    name.toList ++
      if args.isEmpty then [] else '<' :: [',', ' '].intercalate (lettersAll args) ++ ['>']
  | .array element rank => element.letters ++ '[' :: List.replicate (rank - 1) ',' ++ [']']
  | .nullable inner => inner.letters ++ ['?']
  | .tuple items => '(' :: [',', ' '].intercalate (lettersAll items) ++ [')']
  | .dynamic => "dynamic".toList

/-- The characters of each of a list of types. -/
def lettersAll : List TypeExpr → List (List Char)
  | [] => []
  | t :: ts => t.letters :: lettersAll ts

end

/-- The text of a type. -/
def render (t : TypeExpr) : String := String.ofList t.letters

/-! ## Parts -/

/-- The name of a named type without its namespace, otherwise the whole text. -/
def simpleName : TypeExpr → String
  | .named _ name _ => name
  | other => other.render

/-- The name of a named type behind its namespace. -/
def qualifiedName? : TypeExpr → Option String
  | .named (some qualifier) name _ => some (qualifier ++ "." ++ name)
  | .named none name _ => some name
  | _ => none

/-- The namespace that a named type is written with. -/
def qualifier? : TypeExpr → Option String
  | .named qualifier _ _ => qualifier
  | _ => none

/-- The type arguments of a named type. -/
def args : TypeExpr → List TypeExpr
  | .named _ _ args => args
  | _ => []

/-- Whether a type is an array. -/
def isArray : TypeExpr → Bool
  | .array .. => true
  | _ => false

/-- Whether a type is untyped. -/
def isDynamic : TypeExpr → Bool
  | .dynamic => true
  | _ => false

/-- Whether a type is a keyword type. -/
def isKeyword : TypeExpr → Bool
  | .named _ name [] => keywordTypes.contains name
  | _ => false

/-- Whether a type is a keyword type or a framework leaf. -/
def isLeaf : TypeExpr → Bool
  | .named _ name [] => keywordTypes.contains name || leafTypes.contains name
  | _ => false

/-- A type without the nullable marks around it. -/
def withoutNullable : TypeExpr → TypeExpr
  | .nullable inner => inner.withoutNullable
  | other => other

/-- The element of an array, or the only argument of a named type. -/
def element? : TypeExpr → Option TypeExpr
  | .array element _ => some element
  | .named _ _ [arg] => some arg
  | _ => none

end TypeExpr

end ViewForge
