import Querywright.Record.Assembly
import Querywright.Number.Numeral
import Querywright.Text.Utf8

/-! Fitting a value to a declared type. Numbers, texts and truth values are converted where they
can be; a mapping becomes a record field by field. Of several branches of a union an exact fit is
taken at once, else the branch that sets most fields or, among equals, fits most closely. -/
namespace Querywright

/-- How closely a value fitted its type: by conversion, as a near kind, or as it is. -/
inductive Closeness where
  | converted
  | near
  | exact
deriving DecidableEq, Repr

namespace Closeness

def rank : Closeness → Nat
  | .converted => 0
  | .near => 1
  | .exact => 2

def least (left right : Closeness) : Closeness :=
  if left.rank ≤ right.rank then left else right

end Closeness

def addCounts : Option Nat → Option Nat → Option Nat
  | none, right => right
  | left, none => left
  | some left, some right => some (left + right)

/-- How well a value fitted: its closeness, and how many record fields were set on the way, if
any. -/
structure Score where
  closeness : Closeness := .exact
  fieldsSet : Option Nat := none

namespace Score

/-- The score of two parts of a value, fitted one after the other. -/
def followedBy (first second : Score) : Score :=
  { closeness := first.closeness.least second.closeness
    fieldsSet := addCounts first.fieldsSet second.fieldsSet }

/-- Nothing can fit better than an exact fit without record fields. -/
def isBest (score : Score) : Bool :=
  score.closeness == .exact && score.fieldsSet.isNone

end Score

structure Fitted where
  value : Value
  score : Score := {}

def flawed {α : Type} (flaw : Flaw) : Except Flaws α :=
  .error [(flaw, [])]

def under (step : Step) (flaws : Flaws) : Flaws :=
  flaws.map fun (flaw, place) => (flaw, step :: place)

def converted (value : Value) : Except Flaws Fitted :=
  .ok { value := value, score := { closeness := .converted } }

/-- Text in a value, octets being read as text too. -/
def textIn? (value : Value) : Option (Option String) :=
  match value with
  | .text text => some (some text)
  | .octets octets => some (Text.ofOctets? octets)
  | _ => none

def integerFrom (text : String) : Except Flaws Fitted :=
  match Number.readFieldInteger text with
  | .whole value => converted (.integer value)
  | .tooLong => flawed .integerTooLong
  | .unreadable => flawed .integerParsing

/-- Whole doubles inside sixty-four bits become integers. -/
def integerOfFloat (value : Float) : Except Flaws Int :=
  match Number.reading value with
  | .undefined | .infinite _ => flawed .finiteNumber
  | .finite negative size =>
    if !size.isWhole then flawed .integerFromFraction
    else if 1 <<< 63 ≤ size.floor then flawed .integerTooLong
    else .ok (Number.withSign negative size.floor)

def fitInteger (value : Value) : Except Flaws Fitted :=
  match value with
  | .integer _ => .ok { value := value }
  | .truth truth => converted (.integer (if truth then 1 else 0))
  | .decimal number => do converted (.integer (← integerOfFloat number))
  | other =>
    match textIn? other with
    | some (some text) => integerFrom text
    | some none => flawed .integerParsing
    | none => flawed .integerType

def fitText (value : Value) : Except Flaws Fitted :=
  match value with
  | .text _ => .ok { value := value }
  | .octets octets =>
    match Text.ofOctets? octets with
    | some text => converted (.text text)
    | none => flawed .textEncoding
  | _ => flawed .textType

def fitDecimal (value : Value) : Except Flaws Fitted :=
  match value with
  | .decimal _ => .ok { value := value }
  | .truth truth => converted (.decimal (if truth then 1.0 else 0.0))
  | .integer number =>
    match Number.floatOfInt? number with
    | some float => .ok { value := .decimal float, score := { closeness := .near } }
    | none => flawed .decimalType
  | other =>
    match textIn? other with
    | some (some text) =>
      match Number.readFieldDecimal? text with
      | some float => converted (.decimal float)
      | none => flawed .decimalParsing
    | some none => flawed .decimalParsing
    | none => flawed .decimalType

def truthOfInt (number : Int) : Except Flaws Fitted :=
  if number == 0 then converted (.truth false)
  else if number == 1 then converted (.truth true)
  else flawed .truthParsing

def fitTruth (value : Value) : Except Flaws Fitted :=
  match value with
  | .truth _ => .ok { value := value }
  | .integer number =>
    if -(1 <<< 63) ≤ number && number < 1 <<< 63 then truthOfInt number else flawed .truthType
  | .decimal number =>
    match integerOfFloat number with
    | .ok whole => truthOfInt whole
    | .error _ => flawed .truthType
  | other =>
    match textIn? other with
    | some (some text) =>
      match Number.readTruth? text with
      | some truth => converted (.truth truth)
      | none => flawed .truthParsing
    | some none => flawed .truthParsing
    | none => flawed .truthType

def fitOctets (value : Value) : Except Flaws Fitted :=
  match value with
  | .octets _ => .ok { value := value }
  | .text text => converted (.octets (Text.octetsOf text))
  | _ => flawed .octetsType

def fitMapping (value : Value) : Except Flaws Fitted :=
  match value with
  | .mapping [] => .ok { value := value }
  | .mapping _ => .ok { value := value, score := { closeness := .near } }
  | _ => flawed .mappingType

/-- The items of a value that can stand for a list. -/
def listItems? (value : Value) : Option (List Value × Closeness) :=
  match value with
  | .list items => some (items, .exact)
  | .tuple items => some (items, .converted)
  | .set _ items => some (items, .converted)
  | _ => none

def fitSequence (value : Value) : Except Flaws Fitted :=
  match listItems? value with
  | some (items, closeness) => .ok { value := .list items, score := { closeness := closeness } }
  | none => flawed .sequenceType

/-- Choices are taken word for word. -/
def fitChoice (options : List String) (value : Value) : Except Flaws Fitted :=
  match value.asText?.filter options.contains with
  | some option => .ok { value := .text option }
  | none => flawed .notAmongChoices

def fitAbsent (value : Value) : Except Flaws Fitted :=
  match value with
  | .null => .ok { value := value }
  | _ => flawed .absentRequired

/-- Whether a later success is taken instead of the best so far. -/
def isBetter (best candidate : Score) : Bool :=
  match best.fieldsSet, candidate.fieldsSet with
  | some most, some count =>
    if most == count then best.closeness.rank < candidate.closeness.rank else most < count
  | _, _ => best.closeness.rank < candidate.closeness.rank

namespace FieldType

def joinedTag (tags : List String) : String :=
  let distinct := tags.eraseDups
  let inner := match distinct.filter (· != "none") with
    | [] => "none"
    | [tag] => tag
    | present => "union[" ++ ",".intercalate present ++ "]"
  if distinct.contains "none" && inner != "none" then "nullable[" ++ inner ++ "]" else inner

mutual

def tags : FieldType → List String
  | .integer => ["int"]
  | .text => ["str"]
  | .decimal => ["float"]
  | .truth => ["bool"]
  | .octets => ["bytes"]
  | .anything => ["any"]
  | .mapping => ["dict[any,any]"]
  | .sequence => ["list[any]"]
  | .choice _ => ["literal"]
  | .absent => ["none"]
  | .record name => [name]
  | .listOf element => ["list[" ++ joinedTag element.tags ++ "]"]
  | .rowOf element => ["tuple[" ++ joinedTag element.tags ++ ", ...]"]
  | .union _ branches => tagsOfAll branches

def tagsOfAll : List FieldType → List String
  | [] => []
  | branch :: rest => branch.tags ++ tagsOfAll rest

end

def tag (type : FieldType) : String :=
  joinedTag type.tags

end FieldType

/-- Picks among the results of the branches of a union, in their order. A best fit is taken at
once. -/
def chooseBranch : Option Fitted → Flaws → List (FieldType × Except Flaws Fitted) →
    Except Flaws Fitted
  | some best, _, [] => .ok best
  | none, flaws, [] => .error flaws
  | best, flaws, (branch, result) :: rest =>
    match result with
    | .error found =>
      let gathered := if best.isNone then flaws ++ under (.field branch.tag) found else flaws
      chooseBranch best gathered rest
    | .ok fitted =>
      if fitted.score.isBest then .ok fitted
      else match best with
        | none => chooseBranch (some fitted) flaws rest
        | some earlier =>
          chooseBranch (some (if isBetter earlier.score fitted.score then fitted else earlier))
            flaws rest

/-- Puts the results for the items of a list together; all flaws are told. -/
def gatherItems : Nat → List (Except Flaws Fitted) → Except Flaws (List Value × Score)
  | _, [] => .ok ([], {})
  | position, result :: rest =>
    match result, gatherItems (position + 1) rest with
    | .ok fitted, .ok (values, score) =>
      .ok (fitted.value :: values, fitted.score.followedBy score)
    | .ok _, .error flaws => .error flaws
    | .error flaws, .ok _ => .error (under (.index position) flaws)
    | .error flaws, .error others => .error (under (.index position) flaws ++ others)

/-- Puts the results for the fields of a record together; all flaws are told. -/
def gatherFields : List (String × Except Flaws Fitted) →
    Except Flaws (List (String × Value) × Score)
  | [] => .ok ([], {})
  | (name, result) :: rest =>
    match result, gatherFields rest with
    | .ok fitted, .ok (fields, score) =>
      .ok ((name, fitted.value) :: fields, fitted.score.followedBy score)
    | .ok _, .error flaws => .error flaws
    | .error flaws, .ok _ => .error flaws
    | .error flaws, .error others => .error (flaws ++ others)

/-- A record made from a mapping is no exact fit, and its own fields that are set are counted
with those of the records inside it. -/
def recordScore (fieldsSet : Nat) (fields : Score) : Score :=
  (Score.followedBy { closeness := .near } fields).followedBy { fieldsSet := some fieldsSet }

/-- The first of the keys that a mapping has, with the value under it. -/
def firstPresent? (entries : Entries) : List String → Option (String × Value)
  | [] => none
  | key :: rest =>
    match Entries.get? (.text key) entries with
    | some value => some (key, value)
    | none => firstPresent? entries rest

def RecordType.countPresent (entries : Entries) (type : RecordType) : Nat :=
  type.fields.countP fun rule =>
    (firstPresent? entries (rule.readingKeys type.byName)).isSome

theorem sizeOf_lt_of_get? {key value : Value} {entries : Entries}
    (found : Entries.get? key entries = some value) : sizeOf value < sizeOf entries := by
  induction entries with
  | nil => simp [Entries.get?] at found
  | cons entry rest ih =>
    obtain ⟨other, stored⟩ := entry
    simp only [Entries.get?] at found
    split at found
    · cases found
      simp
      omega
    · have below := ih found
      simp
      omega

theorem sizeOf_lt_of_firstPresent? {entries : Entries} {keys : List String} {key : String}
    {value : Value} (found : firstPresent? entries keys = some (key, value)) :
    sizeOf value < sizeOf (Value.mapping entries) := by
  induction keys with
  | nil => simp [firstPresent?] at found
  | cons head tail ih =>
    simp only [firstPresent?] at found
    split at found
    · rename_i stored reached
      cases found
      have below := sizeOf_lt_of_get? reached
      simp
      omega
    · exact ih found

theorem sizeOf_lt_of_listItems? {value item : Value} {items : List Value} {closeness : Closeness}
    (found : listItems? value = some (items, closeness)) (member : item ∈ items) :
    sizeOf item < sizeOf value := by
  have below := List.sizeOf_lt_of_mem member
  cases value <;> simp [listItems?] at found <;> obtain ⟨rfl, _⟩ := found <;> simp <;> omega

mutual

theorem FieldType.sizeOf_le_of_mem_alternatives (type : FieldType) :
    ∀ branch ∈ type.alternatives, sizeOf branch ≤ sizeOf type := by
  intro branch member
  cases type with
  | union _ branches =>
    have below := FieldType.sizeOf_lt_of_mem_alternativesOfAll branches branch member
    simp
    omega
  | _ => simp_all [FieldType.alternatives]

theorem FieldType.sizeOf_lt_of_mem_alternativesOfAll (types : List FieldType) :
    ∀ branch ∈ FieldType.alternativesOfAll types, sizeOf branch < sizeOf types := by
  intro branch member
  cases types with
  | nil => simp [FieldType.alternativesOfAll] at member
  | cons head tail =>
    rcases List.mem_append.mp member with first | later
    · have below := FieldType.sizeOf_le_of_mem_alternatives head branch first
      simp
      omega
    · have below := FieldType.sizeOf_lt_of_mem_alternativesOfAll tail branch later
      simp
      omega

end

theorem FieldType.mem_of_mem_withoutRepeats {types : List FieldType} {branch : FieldType}
    (member : branch ∈ withoutRepeats types) : branch ∈ types := by
  induction types with
  | nil => simp [withoutRepeats] at member
  | cons head tail ih =>
    rcases List.mem_cons.mp member with same | later
    · exact List.mem_cons.mpr (.inl same)
    · exact List.mem_cons.mpr (.inr (ih (List.mem_filter.mp later).1))

theorem FieldType.sizeOf_lt_of_mem_branches {form : UnionForm} {types : List FieldType}
    {branch : FieldType} (member : branch ∈ (FieldType.union form types).branches) :
    sizeOf branch < sizeOf (FieldType.union form types) := by
  have among := mem_of_mem_withoutRepeats (List.mem_filter.mp member).1
  have below := sizeOf_lt_of_mem_alternativesOfAll types branch among
  simp
  omega

def fit (schema : Schema) (type : FieldType) (input : Value) : Except Flaws Fitted :=
  match type with
  | .integer => fitInteger input
  | .text => fitText input
  | .decimal => fitDecimal input
  | .truth => fitTruth input
  | .octets => fitOctets input
  | .anything => .ok { value := input, score := { closeness := .near } }
  | .mapping => fitMapping input
  | .sequence => fitSequence input
  | .choice options => fitChoice options input
  | .absent => fitAbsent input
  | .union form branches =>
    if (FieldType.union form branches).acceptsAbsent && input.isNull then
      .ok { value := .null }
    else
      let results := (FieldType.union form branches).branches.attach.map fun ⟨branch, _⟩ =>
        (branch, fit schema branch input)
      match results with
      | [] => flawed .absentRequired
      | [(_, result)] => result
      | many => chooseBranch none [] many
  | .listOf element =>
    -- Elements of which nothing is said are not looked at, so they do not count in the score.
    if element.isAnything then fitSequence input
    else
      match _found : listItems? input with
      | none => flawed .sequenceType
      | some (items, closeness) => do
        let results := items.attach.map fun ⟨item, _⟩ => fit schema element item
        let (values, score) ← gatherItems 0 results
        return { value := .list values
                 score := Score.followedBy { closeness := closeness } score }
  | .rowOf element =>
    match _found : listItems? input with
    | none => flawed .rowType
    | some (items, closeness) => do
      let results := items.attach.map fun ⟨item, _⟩ => fit schema element item
      let (values, score) ← gatherItems 0 results
      return { value := .tuple values
               score := Score.followedBy { closeness := closeness } score }
  | .record name =>
    match schema.find? name with
    | none => flawed .recordType
    | some recordType =>
      match input with
      | .record other _ =>
        if other == name then .ok { value := input } else flawed .recordType
      | .mapping entries => do
        let results := recordType.fields.map fun rule =>
          match _found : firstPresent? entries (rule.readingKeys recordType.byName) with
          | some (key, value) =>
            (rule.name, (fit schema rule.type value).mapError (under (.field key)))
          | none =>
            (rule.name, match rule.fallback with
              | some value => .ok { value := value }
              | none => .error [(.missing,
                  [.field ((rule.readingKeys recordType.byName).headD rule.name)])])
        let (fields, score) ← gatherFields results
        return { value := .record name fields
                 score := recordScore (recordType.countPresent entries) score }
      | _ => flawed .recordType
termination_by (sizeOf input, sizeOf type)
decreasing_by
  · exact Prod.Lex.right _ (FieldType.sizeOf_lt_of_mem_branches ‹_›)
  · exact Prod.Lex.left _ _ (sizeOf_lt_of_listItems? _found ‹_›)
  · exact Prod.Lex.left _ _ (sizeOf_lt_of_listItems? _found ‹_›)
  · exact Prod.Lex.left _ _ (sizeOf_lt_of_firstPresent? _found)

/-- Two results together; the flaws of both are told. -/
def besides {α β : Type} (left : Except Flaws α) (right : Except Flaws β) :
    Except Flaws (α × β) :=
  match left, right with
  | .ok first, .ok second => .ok (first, second)
  | .ok _, .error flaws => .error flaws
  | .error flaws, .ok _ => .error flaws
  | .error flaws, .error others => .error (flaws ++ others)

def fitNamed (name : String) (type : FieldType) (input : Value) : Except Flaws Value :=
  match fit [] type input with
  | .ok fitted => .ok fitted.value
  | .error flaws => .error (under (.field name) flaws)

def validate (schema : Schema) (type : FieldType) (input : Value) : Except Error Value :=
  match fit schema type input with
  | .ok fitted => .ok fitted.value
  | .error flaws => .error (.invalid flaws)

end Querywright
