import LiveShader.Compiler
import LiveShader.Text.Lines

/-!
# Scripted compilers

A compiler that follows a list of rules: a rule complains about every line in which its
needle occurs. It has no state, and what it compiles to is the source itself.
-/

namespace LiveShader

/-- A complaint about every line of a stage that holds the needle. The message may name
the line's number as `{line}`. -/
structure ScriptRule where
  stage : Stage
  needle : String
  message : String

/-- The rules of a scripted compiler, and what it refuses to link. -/
structure Script where
  format : DiagnosticFormat
  rules : List ScriptRule
  refused : Option String
  linkMessage : String

namespace Script

/-- A needle occurs in a text. The empty needle occurs in every text. -/
def occursIn (needle : List Char) : List Char → Bool
  | [] => needle = []
  | head :: tail => needle.isPrefixOf (head :: tail) || occursIn needle tail

/-- The place in a message where the line's number goes. -/
def lineMark : List Char := "\x7bline\x7d".toList

/-- A message with the line's number at every mark. `skip` characters of a mark are
still to be passed. -/
def fillIn (number : List Char) : Nat → List Char → List Char
  | _, [] => []
  | skip + 1, _ :: tail => fillIn number skip tail
  | 0, head :: tail =>
    if lineMark.isPrefixOf (head :: tail) then
      number ++ fillIn number (lineMark.length - 1) tail
    else head :: fillIn number 0 tail

/-- What the rules say about a numbered line of a source. -/
def complaints (script : Script) (stage : Stage) (numbered : String × Nat) : List String :=
  (script.rules.filter fun rule =>
    rule.stage = stage && occursIn rule.needle.toList numbered.1.toList).map fun rule =>
      String.ofList (fillIn (toString numbered.2).toList 0 rule.message.toList) ++ "\n"

/-- All that the rules say about a source, lines cut at every line feed. -/
def diagnostics (script : Script) (source : String) (stage : Stage) : String :=
  String.join (((Text.feeds source).zipIdx 1).flatMap (script.complaints stage))

/-- The compiler that follows a script. -/
def compiler (script : Script) : Compiler Unit String String where
  name := "scripted"
  format := script.format
  compile state source stage :=
    let raw := script.diagnostics source stage
    (if raw = "" then .ok source else .error raw, state)
  link state _ fragment :=
    (if script.refused.any fun needle => occursIn needle.toList fragment.toList then
      .error script.linkMessage
    else .ok fragment, state)

end Script

end LiveShader
