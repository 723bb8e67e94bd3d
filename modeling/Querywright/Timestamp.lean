import Querywright.Error
import Querywright.Text.Case

/-! Comparisons of one part of a moment kept as seconds. Months and weekdays may be given by
their English names in any case; weekdays are numbered from Monday as zero. -/
namespace Querywright

def monthNames : List String :=
  ["january", "february", "march", "april", "may", "june", "july", "august", "september",
    "october", "november", "december"]

def weekdayNames : List String :=
  ["monday", "tuesday", "wednesday", "thursday", "friday", "saturday", "sunday"]

def numberOfName? (names : List String) (first : Nat) (name : String) : Option Value :=
  (names.findIdx? (· == Text.lower name)).map fun position =>
    .integer ((position + first : Nat) : Int)

def TimePart.ofName : String → Except Error TimePart
  | "is_date" => .ok .date
  | "is_year" => .ok .year
  | "is_month" => .ok .month
  | "is_day" => .ok .day
  | "is_weekday" => .ok .weekday
  | "is_hour" => .ok .hour
  | "is_minute" => .ok .minute
  | "is_second" => .ok .second
  | name => .error (.misuse (.noSuchOperation name))

def timestamp (part : TimePart) (value : Value) : Except Error Expression :=
  match part, value with
  | .month, .text name =>
    match numberOfName? monthNames 1 name with
    | some number => .ok (.timestamp part number)
    | none => .error (.unknownMonth name)
  | .weekday, .text name =>
    match numberOfName? weekdayNames 0 name with
    | some number => .ok (.timestamp part number)
    | none => .error (.unknownWeekday name)
  | _, _ => .ok (.timestamp part value)

end Querywright
