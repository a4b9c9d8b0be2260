import JsonTemplate.Sandbox.Tool.Basic

/-!
# Writing arguments

`echo` writes its arguments with spaces between them, `printf` writes them as a format says.
-/

namespace JsonTemplate.Sandbox

def echoFlags : List Octets → Octets × List Octets
  | ('-' :: c :: cs) :: args =>
    if (c :: cs).all ['n', 'e', 'E'].contains then
      let (more, rest) := echoFlags args
      (c :: cs ++ more, rest)
    else ([], ('-' :: c :: cs) :: args)
  | args => ([], args)

def escapesOn (flags : Octets) : Bool :=
  (flags.filter fun c => c == 'e' || c == 'E').getLast? == some 'e'

def joined (args : List Octets) : Octets :=
  [' '].intercalate args

def echoEscapes : EscapeStyle where
  leadingZero := true
  hexadecimal := true
  stops := true

def echo (t : Task) : Finished :=
  let (flags, args) := echoFlags t.args
  let u := if escapesOn flags then unescape echoEscapes (joined args)
    else { output := joined args }
  Task.writes (if flags.contains 'n' || !u.goesOn then u.output else u.output ++ ['\n'])

/-- The format style of the tool: its numbers have 64 bits, and bad directives end it. -/
def toolFormat : FormatStyle where
  escapes := ⟨false, true, true, true⟩
  argumentEscapes := ⟨true, true, true, true⟩
  binary := .extended
  strict := true
  errorStatus := 1
  noNumber := fun s => inMarks s ++ Octets.ofText ": expected a numeric value"
  noWholeNumber := fun s => inMarks s ++ Octets.ofText ": value not completely converted"
  outOfRange := fun s => inMarks s ++ Octets.ofText ": Numerical result out of range"
  noDirective := fun s => s ++ Octets.ofText ": invalid conversion specification"

def Task.explain (t : Task) : Emission → Emission
  | .complaint s => t.complain s
  | e => e

def printf (t : Task) : Finished :=
  match if t.args.head? == some ['-', '-'] then t.args.tail else t.args with
  | [] => t.misused (Octets.ofText "missing operand")
  | format :: args =>
    let f := toolFormat.write format args
    let excess : List Emission :=
      match f.ended, f.args with
      | none, a :: _ =>
        [.complaint (Octets.ofText "warning: ignoring excess arguments, starting with " ++ inMarks a)]
      | _, _ => []
    { emissions := (f.emissions ++ excess).map t.explain
      status := f.ended.getD (if f.failed then 1 else 0) }

end JsonTemplate.Sandbox
