import Foldline.Config.Error
import Foldline.Pattern.Reader

/-! # Checking settings

Settings are checked one after the other in a fixed order, and the first fault is reported. A
pattern that asks for more than can be counted, or for more levels of groups than there is room for,
is no refusal but a fault of its own. -/

namespace Foldline.Config

/-- How a check can fail: settings are refused, or the pattern breaks a limit. -/
inductive Fault where
  | refused (e : Error)
  | limit (e : Pattern.Error)
  deriving DecidableEq, Repr

def Fault.message : Fault → String
  | .refused e => e.message
  | .limit e => e.message

def isNonEmptyText : Value → Bool
  | .text s => !s.isEmpty
  | _ => false

/-- Tokens are a tuple of non-empty texts, at least one. -/
def checkTokens (field : Field) : Value → Except Error Unit
  | .tuple (item :: rest) =>
      if (item :: rest).all isNonEmptyText then .ok () else .error (.badToken field)
  | _ => .error (.noTokens field)

/-- Prefixes are optional, so a value that counts as absent is fine. -/
def checkOptionalTokens (field : Field) (v : Value) : Except Error Unit :=
  if v.isPresent then checkTokens field v else .ok ()

/-- A pattern is a non-empty text that can be read with room for `levels` levels of groups. -/
def checkPattern (levels : Nat) : Value → Except Fault Unit
  | .text s =>
      if s.isEmpty then .error (.refused .patternNotText)
      else
        match Pattern.readWithin levels s.toList with
        | .ok _ => .ok ()
        | .error e => .error (if e.isMalformed then .refused (.badPattern e) else .limit e)
  | _ => .error (.refused .patternNotText)

/-- The first text among the items that does not start with a dot. -/
def dotless? : List Value → Option String
  | [] => none
  | .text s :: rest => if ['.'].isPrefixOf s.toList then dotless? rest else some s
  | _ :: rest => dotless? rest

def checkExtensions (v : Value) : Except Error Unit := do
  checkTokens .extensions v
  match (v.members?.getD []) |> dotless? with
  | some s => .error (.extensionWithoutDot s)
  | none => .ok ()

def checkInteger (field : Field) : Value → Except Error Unit
  | .int _ => .ok ()
  | _ => .error (.notAnInteger field)

def checkPositive (field : Field) : Value → Except Error Unit
  | .int n => if n ≤ 0 then .error (.notPositive field) else .ok ()
  | _ => .ok ()

/-- Check settings that are in the shape that `normalize` gives. -/
def checkNormal (levels : Nat) (c : Config) : Except Fault Unit := do
  let refuse : Except Error Unit → Except Fault Unit := Except.mapError .refused
  refuse (checkTokens .markerTokens c.markerTokens)
  refuse (checkTokens .terminatorTokens c.terminatorTokens)
  refuse (checkOptionalTokens .terminatorPrefixes c.terminatorPrefixes)
  checkPattern levels c.keyPattern
  refuse (checkExtensions c.extensions)
  refuse (checkInteger .maxFileSize c.maxFileSize)
  refuse (checkInteger .maxLineLength c.maxLineLength)
  refuse (checkPositive .maxFileSize c.maxFileSize)
  refuse (checkPositive .maxLineLength c.maxLineLength)

/-- Check settings with room for `levels` levels of groups in the pattern; sequences may still be
lists or bare texts. -/
def checkWithin (levels : Nat) (c : Config) : Except Fault Unit := checkNormal levels c.normalize

/-- Check settings with the usual room for groups. -/
def check (c : Config) : Except Fault Unit := c.checkWithin Pattern.usualLevels

end Foldline.Config
