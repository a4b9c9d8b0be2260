import JsonTemplate.Failure
import JsonTemplate.Host
import JsonTemplate.Json.Parser

/-!
# JSON documents

A document comes from a text, from a file or from standard input; a failure names its source.
-/

namespace JsonTemplate.Json

def ofText (text source : String) : Except Failure Json :=
  (parse text).mapError fun e => .read source (.malformed e)

def ofFile? (h : Host) (path : String) : Except (Breakdown ⊕ DocumentFault) Json := do
  let text ← (h.readText path).mapError (Sum.map id .file)
  (parse text).mapError fun e => .inr (.malformed e)

def ofFile (h : Host) (path : String) : Except Failure Json :=
  (ofFile? h path).mapError (Sum.elim .breakdown (.read path))

def ofStandardInput (input : Text.Utf8.Bytes) : Except Failure Json := do
  let text ← (textOfBytes input).mapError fun f => .read "<stdin>" (.standardInput f)
  ofText text "<stdin>"

/-- A value for a text: what it says as JSON, or else the text itself. -/
def ofTextOrItself (text : String) : Json :=
  (parse text).toOption.getD (.string text)

end JsonTemplate.Json
