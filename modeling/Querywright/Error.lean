import Querywright.Value.Shown

/-! Why an operation is refused. Every cause is a constructor of its own; `Error.message` is the
only place where their wording stands. -/
namespace Querywright

inductive FaultKind where
  | sqliteOperational
  | sqliteProgramming
  | sqliteIntegrity
  | mysqlOperational
  | mysqlProgramming
  | mysqlInterface
  | runtime
  | value
deriving DecidableEq, Repr

structure Fault where
  kind : FaultKind
  arguments : List Value

/-- A single argument is the message itself; several are shown as a row. -/
def Fault.message (fault : Fault) : String :=
  match fault.arguments with
  | [] => ""
  | [argument] => argument.plain
  | arguments => shownTuple (Value.shownAll arguments)

/-- What is wrong with one value that does not fit its declared type. -/
inductive Flaw where
  | missing
  | integerType
  | integerParsing
  | integerTooLong
  | integerFromFraction
  | finiteNumber
  | textType
  | textEncoding
  | decimalType
  | decimalParsing
  | truthType
  | truthParsing
  | octetsType
  | mappingType
  | sequenceType
  | rowType
  | absentRequired
  | recordType
  | tooShort
  | notGreater
  | notAmongChoices
  | supplierType
  | frozenRecord
deriving DecidableEq, Repr

inductive Step where
  | field (name : String)
  | index (position : Nat)
deriving DecidableEq, Repr

/-- Flaws with the place of each, from the outermost field inwards. -/
abbrev Flaws := List (Flaw × List Step)

/-- Uses that no rule of statements covers: wrong numbers of arguments, values of a kind that an
operation cannot work on, arithmetic without a result. -/
inductive Misuse where
  | argumentCount
  | notIterable (kind : String)
  | notText (kind : String)
  | octetsRequired
  | notNumber (kind : String)
  | notWholeNumber (kind : String)
  | notAddable (sign left right : String)
  | notJoinable (kind other : String)
  | notPair (given : Nat)
  | malformedPattern
  | unordered (left right : String)
  | unhashable (kind : String)
  | unassignable (kind : String)
  | noSuchOperation (name : String)
  | notCallable (name : String)
  | rowTooShort
  | unknownName (name : String)
  | noSuchField (name : String)
  | unknownType (name : String)
  | noType (kind : String)
  | unreadableNumber (shown : String)
  | notFinite
  | infinite
  | divisionByZero
  | quotientTooLarge
  | numberTooLarge
  | tooManyDigits
  | invalidBrackets
  | invalidVersionedHost
  | dottedHostInBrackets
  | invalidHost (shown : String)
  | disguisedAuthority (authority : String)
  | invalidPort (shown : String)
  | portOutOfRange
deriving DecidableEq, Repr

namespace Misuse

def message : Misuse → String
  | .argumentCount => "wrong number of arguments"
  | .notIterable kind => "'" ++ kind ++ "' object is not iterable"
  | .notText kind => "expected str instance, " ++ kind ++ " found"
  | .octetsRequired => "a bytes-like object is required, not 'str'"
  | .notNumber kind => "a number is required, not '" ++ kind ++ "'"
  | .notWholeNumber kind => "'" ++ kind ++ "' object cannot be interpreted as an integer"
  | .notAddable sign left right =>
    "unsupported operand type(s) for " ++ sign ++ ": '" ++ left ++ "' and '" ++ right ++ "'"
  | .notJoinable kind other =>
    if kind == "bytes" then "can't concat " ++ other ++ " to bytes"
    else "can only concatenate " ++ kind ++ " (not \"" ++ other ++ "\") to " ++ kind
  | .notPair given =>
    if given < 2 then "not enough values to unpack (expected 2, got " ++ toString given ++ ")"
    else "too many values to unpack (expected 2)"
  | .malformedPattern => "malformed pattern"
  | .unordered left right =>
    "'<=' not supported between instances of '" ++ left ++ "' and '" ++ right ++ "'"
  | .unhashable kind => "unhashable type: '" ++ kind ++ "'"
  | .unassignable kind => "'" ++ kind ++ "' object does not support item assignment"
  | .noSuchOperation name => "no operation '" ++ name ++ "'"
  | .notCallable name => "'" ++ name ++ "' is not callable"
  | .rowTooShort => "list index out of range"
  | .unknownName name => Text.quoted name
  | .noSuchField name => "no field '" ++ name ++ "'"
  | .unknownType name => "no type '" ++ name ++ "'"
  | .noType kind => "'" ++ kind ++ "' object is no type"
  | .unreadableNumber shown => "invalid literal for int() with base 10: " ++ shown
  | .notFinite => "cannot convert float NaN to integer"
  | .infinite => "cannot convert float infinity to integer"
  | .divisionByZero => "division by zero"
  | .quotientTooLarge => "integer division result too large for a float"
  | .numberTooLarge => "int too large to convert to float"
  | .tooManyDigits => "Exceeds the limit (4300 digits) for integer string conversion"
  | .invalidBrackets => "Invalid IPv6 URL"
  | .invalidVersionedHost => "IPvFuture address is invalid"
  | .dottedHostInBrackets => "An IPv4 address cannot be in brackets"
  | .invalidHost shown => shown ++ " does not appear to be an IPv4 or IPv6 address"
  | .disguisedAuthority authority =>
    "netloc '" ++ authority ++ "' contains invalid characters under NFKC normalization"
  | .invalidPort shown => "Port could not be cast to integer value as " ++ shown
  | .portOutOfRange => "Port out of range 0-65535"

/-- Why there is no call of a name: something else may go by it. -/
def ofMissingCall (attributes : List String) (name : String) : Misuse :=
  if attributes.contains name then .notCallable name else .noSuchOperation name

end Misuse

inductive Error where
  | unsupportedStyle (name : String)
  | placeholderCount (text : String) (expected given : Nat)
  | noTable
  | invalidTable (shown : String)
  | invalidJoinTarget (shown : String)
  | noTableToLock
  | emptyCondition
  | invalidConditionColumn (shown : String)
  | invalidOrderColumn (shown : String)
  | invalidColumn (shown : String)
  | noColumnToWrite
  | noRowToInsert
  | payloadNotMapping (kind : String)
  | rowsNotList (kind : String)
  | unevenRows
  | misplacedExistence
  | invalidOperator (column shown : String)
  | operandCount (operator : String) (given : Nat)
  | rangeCount (operator : String) (given : Nat)
  | emptyMembership (operator : String)
  | joinNotFound (key : String)
  | invalidInterval (interval : String)
  | unknownMonth (name : String)
  | unknownWeekday (name : String)
  | invalidJoinDirection (direction : String)
  | subqueryWithoutAlias
  | invalidOrderDirection (direction : String)
  | invalidLimit (shown : String)
  | unknownOption (option : String)
  | invalidLockMethod (method : String)
  | pageLimitNotPositive
  | invalidPage (shown : String)
  | frozenDestination (name : String)
  | invalidDestination (kind : String)
  | noConnection
  | nestedTransaction
  | transactionOver
  | transactionNotBegun
  | baseExpression
  | emptyTemplate
  | timestampAlone
  | unsupportedScheme (scheme : String)
  | unknownDatabase (name : String)
  | invalid (flaws : Flaws)
  | fault (fault : Fault)
  | misuse (misuse : Misuse)

namespace Error

def message : Error → String
  | .unsupportedStyle name => "Unsupported paramstyle: " ++ name
  | .placeholderCount text expected given =>
    "Statement has " ++ toString expected ++ " placeholder(s) but " ++ toString given ++
      " argument(s) were given: " ++ text
  | .noTable => "No table specified; call table() first"
  | .invalidTable shown => "Invalid table: " ++ shown
  | .invalidJoinTarget shown => "Invalid join target: " ++ shown
  | .noTableToLock => "lock() needs at least one table"
  | .emptyCondition => "A condition needs at least a column or a raw expression"
  | .invalidConditionColumn shown => "Invalid column for condition: " ++ shown
  | .invalidOrderColumn shown => "Invalid column for ORDER BY: " ++ shown
  | .invalidColumn shown => "Invalid column: " ++ shown
  | .noColumnToWrite => "No column to write"
  | .noRowToInsert => "No row to insert"
  | .payloadNotMapping kind => "Expected a mapping of columns to values, got " ++ kind
  | .rowsNotList kind => "Expected a list of rows, got " ++ kind
  | .unevenRows => "Every row of a multi-row insert must have the same columns"
  | .misplacedExistence =>
    "A sub-query as the left operand needs exactly the EXISTS or NOT EXISTS operator"
  | .invalidOperator column shown => "Invalid operator for column `" ++ column ++ "`: " ++ shown
  | .operandCount operator given =>
    "Operator " ++ operator ++ " takes a single value, got " ++ toString given
  | .rangeCount operator given =>
    operator ++ " needs exactly 2 values, got " ++ toString given
  | .emptyMembership operator => operator ++ " needs at least one value"
  | .joinNotFound key => "No join on `" ++ key ++ "`; call join() before join_where()"
  | .invalidInterval interval =>
    "Invalid interval `" ++ interval ++ "`, expected e.g. '+1Y' or '-2h'"
  | .unknownMonth name => "Unknown month name `" ++ name ++ "`"
  | .unknownWeekday name => "Unknown weekday name `" ++ name ++ "`"
  | .invalidJoinDirection direction => "Invalid join direction `" ++ direction ++ "`"
  | .subqueryWithoutAlias => "A joined sub-query needs an alias, e.g. sub_query('Users')"
  | .invalidOrderDirection direction => "Invalid order direction `" ++ direction ++ "`"
  | .invalidLimit shown =>
    "limit() takes a count, or an offset and a count, got " ++ shown
  | .unknownOption option => "Unknown query option `" ++ option ++ "`"
  | .invalidLockMethod method => "Invalid lock method `" ++ method ++ "`"
  | .pageLimitNotPositive => "page_limit must be positive to paginate"
  | .invalidPage shown => "Page numbers start at 1, got " ++ shown
  | .frozenDestination name => "Cannot load rows into frozen model " ++ name
  | .invalidDestination kind =>
    "Cannot load rows into " ++ kind ++
      "; use a Value, a pydantic model instance, a list or a dict"
  | .noConnection =>
    "This builder has no connection; create it with chainsql.new(url) or chainsql.database()"
  | .nestedTransaction => "Nested transactions are not supported"
  | .transactionOver => "Transaction is no longer active"
  | .transactionNotBegun => "No active transaction; call begin() first"
  | .baseExpression => "Subclasses must implement `sql` property"
  | .emptyTemplate => "FunctionExpression must have a template"
  | .timestampAlone =>
    "TimestampExpression must be used as a condition value, e.g. where('CreatedAt', ts)"
  | .unsupportedScheme scheme => "Unsupported database scheme: " ++ scheme
  | .unknownDatabase name => "No connection configured with name=`" ++ name ++ "`"
  | .invalid flaws => toString flaws.length ++ " validation error(s)"
  | .fault reported => reported.message
  | .misuse cause => cause.message

end Error
end Querywright
