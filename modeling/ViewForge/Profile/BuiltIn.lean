import ViewForge.Profile.Basic

/-!
# Built-in profiles

Two profiles that serve until settings name others: members stacked in a panel, and members in a
grid of two columns. Both share their rules, up to the attributes that place an element in a grid.
-/

namespace ViewForge.Profile

/-- A binding to the member at hand, with further options. -/
def bound (options : String) : String := "\x7bx:Bind ViewModel.$name$" ++ options ++ "\x7d"

/-- A binding that reads the member. -/
def oneWay : String := bound ""

/-- A binding that reads and writes the member. -/
def twoWay : String := bound ", Mode=TwoWay"

/-- An empty element with the placing attributes last. -/
def leaf (element attributes place : String) : String :=
  "<" ++ element ++ " " ++ attributes ++ place ++ " />"

/-- The attribute that shows the spaced name. -/
def labelled (key : String) : String := key ++ "=\"$namewithspaces$\""

/-- The collections whose elements are shown in a list. -/
def collectionTypes : String :=
  "List<T>|ObservableCollection<T>|IEnumerable<T>|IList<T>|ICollection<T>|T[]"

/-- The number types with an editor of their own. -/
def numberTypes : String := "int|long|short|double|float|decimal"

/-- A list whose item template expands the members of the element type. -/
def listView (place : String) : String :=
  "<ListView " ++ labelled "Header" ++ " ItemsSource=\"" ++ oneWay ++ "\"" ++ place ++ ">\n" ++
  "<ListView.ItemTemplate>\n<DataTemplate>\n<StackPanel>\n$subprops$\n</StackPanel>\n" ++
  "</DataTemplate>\n</ListView.ItemTemplate>\n</ListView>"

/-- The rules of both profiles; `place` holds the attributes that place an element. -/
def commonRules (place : String) : List Rule :=
  let header := labelled "Header"
  let caption := labelled "Content"
  let shown := leaf "TextBlock" ("Text=\"" ++ oneWay ++ "\"") place
  [{ types := "string", nameContains := "password|pwd"
     output := leaf "PasswordBox" (header ++ " Password=\"" ++ twoWay ++ "\"") place },
   { types := "string"
     output := leaf "TextBox" (header ++ " Text=\"" ++ twoWay ++ "\"") place },
   { types := "string", ifReadOnly := true, output := shown },
   { types := numberTypes
     output :=
      leaf "Slider" (header ++ " Minimum=\"0\" Maximum=\"100\" Value=\"" ++ twoWay ++ "\"") place },
   { types := numberTypes, ifReadOnly := true, output := shown },
   { types := "bool"
     output := leaf "ToggleSwitch" (header ++ " IsOn=\"" ++ twoWay ++ "\"") place },
   { types := "bool", ifReadOnly := true
     output :=
      leaf "CheckBox" (caption ++ " IsChecked=\"" ++ oneWay ++ "\" IsEnabled=\"False\"") place },
   { types := "DateTime|DateTimeOffset"
     output := leaf "DatePicker" (header ++ " Date=\"" ++ twoWay ++ "\"") place },
   { types := "TimeSpan"
     output := leaf "TimePicker" (header ++ " Time=\"" ++ twoWay ++ "\"") place },
   { types := "Uri", ifReadOnly := true
     output := leaf "HyperlinkButton" (caption ++ " NavigateUri=\"" ++ oneWay ++ "\"") place },
   { types := enumPattern
     output := "<StackPanel" ++ place ++ ">\n" ++ leaf "TextBlock" (labelled "Text") "" ++
      "\n$members$\n</StackPanel>" },
   { types := collectionTypes, output := listView place },
   { types := collectionTypes, ifReadOnly := true, output := listView place },
   { types := "ICommand", ifReadOnly := true
     output := leaf "Button" (caption ++ " Command=\"" ++ oneWay ++ "\"") place }]

/-- The template of nested members. -/
def nestedText : String := "<TextBlock Text=\"\x7bBinding $name$\x7d\" />"

/-- The template of each member of an enumeration: one of a group of buttons. -/
def radioButton : String :=
  "<RadioButton Content=\"$elementwithspaces$\" GroupName=\"$enumname$\" " ++
  "IsChecked=\"\x7bx:Bind ViewModel.$enumname$, " ++
  "Converter=\x7bStaticResource EnumToBooleanConverter\x7d, " ++
  "ConverterParameter=$element$, Mode=TwoWay\x7d\" />"

/-- The name of the profile that is active by default. -/
def defaultName : String := "UWP"

/-- Members stacked in a panel. -/
def stacked : Profile where
  name := defaultName
  grouping := "StackPanel"
  fallback := "<TextBlock Text=\"" ++ oneWay ++ "\" />"
  nestedFallback := nestedText
  enumMember := radioButton
  rules := commonRules ""

/-- Members in a grid of two columns. -/
def gridded : Profile where
  name := "UWP Grid"
  grouping := twoColumnGrouping
  fallback :=
    "<TextBlock Text=\"$namewithspaces$\" Grid.Row=\"$incint$\" />\n" ++
    "<TextBlock Text=\"" ++ oneWay ++ "\" Grid.Row=\"$repint$\" Grid.Column=\"1\" />"
  nestedFallback := nestedText
  enumMember := radioButton
  rules := commonRules " Grid.Row=\"$incint$\" Grid.ColumnSpan=\"2\""

/-- The built-in profiles. -/
def builtIn : List Profile := [stacked, gridded]

end ViewForge.Profile
