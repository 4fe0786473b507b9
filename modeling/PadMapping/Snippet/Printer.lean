import PadMapping.DeviceId
import PadMapping.Snippet.Mapper

/-!
# Snippets of code for a device

Two snippets are needed to make a device known to a program that has a table of devices: the
entry in the table, which names the device by its vendor and product number and the mapper
function, and the mapper function itself.
-/

namespace PadMapping.Snippet

/-- The name of the mapper function if none is given. -/
def defaultName : String := "MapperRenameMe"

/-- What can be wrong with an export for which snippets are wanted. -/
inductive Problem where
  | device (fault : DeviceId.Fault)
  | slot (fault : Fault)
deriving DecidableEq, Repr

/-- The wording shown for a problem. -/
def Problem.message : Problem → String
  | .device fault => fault.message
  | .slot fault => fault.message

/-- The table entry. The name of the device is only a comment. -/
def tableEntry (e : Export) (name : String) : Except Problem String :=
  match DeviceId.parse e.deviceId with
  | .error fault => .error (.device fault)
  | .ok id =>
    .ok ("    \x7b\"" ++ id.vendor ++ "\", \"" ++ id.product ++ "\", " ++ name ++ "\x7d, // "
      ++ id.name)

/-- The expression for a raw axis. -/
def rawAxis (raw : Nat) : String := "input.axes[" ++ toString raw ++ "]"

/-- The expression for the state of a button. -/
def ButtonSource.expression : ButtonSource → String
  | .button raw => "input.buttons[" ++ toString raw ++ "]"
  | .axis raw .positive => "AxisPositiveAsButton(" ++ rawAxis raw ++ ")"
  | .axis raw .negative => "AxisNegativeAsButton(" ++ rawAxis raw ++ ")"
  | .nothing => "NullButton()"

/-- An assignment in a line of its own. -/
def Statement.line : Statement → String
  | .setButton slot source =>
    "  mapped->buttons[" ++ slot.constant ++ "] = " ++ source.expression ++ ";\n"
  | .setAxis slot raw => "  mapped->axes[" ++ slot.constant ++ "] = " ++ rawAxis raw ++ ";\n"

/-- The text of a mapper function. -/
def Mapper.print (m : Mapper) (name : String) : String :=
  "void " ++ name ++ "(const blink::WebGamepad& input, blink::WebGamepad* mapped) \x7b\n"
    ++ "  *mapped = input;\n"
    ++ String.join (m.statements.map Statement.line)
    ++ "  mapped->buttonsLength = " ++ constant .button m.buttonsLength ++ ";\n"
    ++ "  mapped->axesLength = " ++ constant .axis m.axesLength ++ ";\n"
    ++ "\x7d"

/-- The mapper function for an export. -/
def mapperFunction (e : Export) (name : String) : Except Problem String :=
  match Mapper.ofExport e with
  | .error fault => .error (.slot fault)
  | .ok mapper => .ok (mapper.print name)

/-- Both snippets under their headings. -/
def render (e : Export) (name : String) : Except Problem String := do
  let entry ← tableEntry e name
  let function ← mapperFunction e name
  return "Table entry:\n" ++ entry ++ "\n\nMapping method:\n" ++ function ++ "\n"

end PadMapping.Snippet
