import JsonTemplate.Json.Keys
import JsonTemplate.Path.Basic

/-!
# Comparing JSON values in conditions

Numbers compare by their exact value, an integer with a double too; no order holds with a value
that is no number. Texts compare by code points. The order of an object's members does not matter,
and a truth value equals only itself.
-/

namespace JsonTemplate

namespace Json

def magnitude? : Json → Option Magnitude
  | int n => some (.ofInt n)
  | float d => some (.ofDouble d)
  | _ => none

mutual

def equal : Json → Json → Bool
  | null, w => w.isNull
  | bool b, w => match w with
    | bool c => b == c
    | _ => false
  | int n, w => match w.magnitude? with
    | some m => (Magnitude.ofInt n).equal m
    | none => false
  | float d, w => match w.magnitude? with
    | some m => (Magnitude.ofDouble d).equal m
    | none => false
  | string s, w => match w with
    | string t => s == t
    | _ => false
  | array items, w => match w with
    | array others => equalItems items others
    | _ => false
  | object members, w => match w with
    | object others => members.length == others.length && equalMembers members others
    | _ => false

def equalItems : List Json → List Json → Bool
  | [], others => others.isEmpty
  | v :: items, others => match others with
    | [] => false
    | w :: others => equal v w && equalItems items others

def equalMembers : List (Key × Json) → List (Key × Json) → Bool
  | [], _ => true
  | (k, v) :: members, others =>
    (match others.find? (k.same ·.1) with
      | some m => equal v m.2
      | none => false) && equalMembers members others

end

def less (v w : Json) : Bool :=
  match v.magnitude?, w.magnitude? with
  | some a, some b => a.less b
  | _, _ =>
    match v, w with
    | string s, string t => s < t
    | _, _ => false

end Json

def Comparison.holds (c : Comparison) (v w : Json) : Bool :=
  match c with
  | .equal => v.equal w
  | .unequal => !v.equal w
  | .less => v.less w
  | .lessOrEqual => v.less w || v.equal w
  | .greater => w.less v
  | .greaterOrEqual => w.less v || v.equal w

/-- What a comparison says of two sides that are both missing. -/
def Comparison.isReflexive : Comparison → Bool
  | .equal => true
  | .lessOrEqual => true
  | .greaterOrEqual => true
  | _ => false

end JsonTemplate
