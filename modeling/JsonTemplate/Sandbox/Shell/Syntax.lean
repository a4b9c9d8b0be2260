import JsonTemplate.Sandbox.Octets

/-!
# Shell scripts

A word is made of literal text, quoted text and expansions. A script is made of simple commands,
pipelines, lists and compound commands; redirections may follow any command.
-/

namespace JsonTemplate.Sandbox

inductive Trim where
  | shortestPrefix
  | longestPrefix
  | shortestSuffix
  | longestSuffix
  deriving DecidableEq

inductive Default where
  /-- The word is used instead. -/
  | use
  | assign
  /-- The word is an error message. -/
  | complain
  /-- The word is used if there is a value. -/
  | alternative
  deriving DecidableEq

mutual

inductive WordPart where
  | plain (s : Octets)
  /-- Text after a backslash or between single quotes. -/
  | shielded (s : Octets)
  | double (parts : List WordPart)
  | parameter (name : Octets)
  | length (name : Octets)
  /-- A default for a missing value, or also for an empty one. -/
  | default (name : Octets) (orEmpty : Bool) (kind : Default) (word : List WordPart)
  | trim (name : Octets) (kind : Trim) (pattern : List WordPart)
  | malformed
  | command (script : Script)
  | arithmetic (parts : List WordPart)

inductive Redirect where
  | input (descriptor : Nat) (target : List WordPart)
  | output (descriptor : Nat) (append : Bool) (target : List WordPart)
  | both (descriptor : Nat) (target : List WordPart)
  | duplicate (descriptor : Nat) (target : List WordPart)
  /-- Text that stands in the script itself. -/
  | document (descriptor : Nat) (body : List WordPart)

inductive Script where
  | simple (place : Nat) (assignments : List (Octets × List WordPart))
      (words : List (List WordPart)) (redirects : List Redirect)
  | pipe (commands : List Script)
  | both (a b : Script)
  | either (a b : Script)
  | sequence (commands : List Script)
  | negation (a : Script)
  | background (a : Script)
  | subshell (a : Script)
  | redirected (a : Script) (place : Nat) (redirects : List Redirect)
  /-- Without an alternative the script does nothing when the condition fails. -/
  | branch (condition yes : Script) (no : Option Script)
  | loop (negated : Bool) (condition body : Script)
  | each (name : Octets) (words : List (List WordPart)) (body : Script)
  | choice (word : List WordPart) (arms : List (List (List WordPart) × Script))
  | define (name : Octets) (body : Script)

end

abbrev ShellWord := List WordPart

def Script.nothing : Script := .sequence []

instance : Inhabited Script := ⟨.nothing⟩

def ShellWord.allArguments : ShellWord :=
  [.double [.parameter ['@']]]

def isNameStart (c : Char) : Bool :=
  c.isAlpha || c == '_'

def isNameChar (c : Char) : Bool :=
  c.isAlphanum || c == '_'

def isName (s : Octets) : Bool :=
  s.head?.any isNameStart && s.all isNameChar

end JsonTemplate.Sandbox
