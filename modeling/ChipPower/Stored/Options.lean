import ChipPower.Json.Fields
import ChipPower.Json.Writer
import ChipPower.Options
import ChipPower.Stored.Stack

/-!
Stored options.
-/

namespace ChipPower.Options

open Json (Reader)

/-- Reads a stored policy. -/
def policyReader : Reader BankMapPolicy :=
  .variant BankMapPolicy.ofName? "`all_ways` or `more_sets`"

/-- The fields of stored options. -/
def fields : List (Reader.Field (Options Float)) := [
  .optional "power_type" Lens.reader fun options lens => { options with lens },
  .optional "bank_map_policy" policyReader fun options bankMapPolicy =>
    { options with bankMapPolicy },
  .optional "in_bank_fraction" (.option .float) fun options inBankFraction =>
    { options with inBankFraction },
  .optional "add_implicit_accesses" .flag fun options implicitAccesses =>
    { options with implicitAccesses },
  .optional "nocollapse" .flag fun options keepSmall => { options with keepSmall },
  .optional "first_marker" .natural fun options first =>
    { options with markers := { options.markers with first } },
  .optional "last_marker" .natural fun options last =>
    { options with markers := { options.markers with last } }]

/-- Reads stored options. What is missing is as it is by default. -/
def reader : Reader (Options Float) :=
  .record "Options" fields {}

/-- Reads the text of stored options. -/
def ofText (text : String) : Except Json.Error (Options Float) :=
  reader.run text

/-- The text of stored options. -/
def store (options : Options Float) : String :=
  Json.writeObject [
    ("power_type", Json.writeString options.lens.name),
    ("bank_map_policy", Json.writeString options.bankMapPolicy.name),
    ("in_bank_fraction", (options.inBankFraction.map Json.writeFloat).getD "null"),
    ("add_implicit_accesses", toString options.implicitAccesses),
    ("nocollapse", toString options.keepSmall),
    ("first_marker", toString options.markers.first),
    ("last_marker", toString options.markers.last)]

end ChipPower.Options
