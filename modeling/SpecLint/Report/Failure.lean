import SpecLint.Data.Rendered

/-!
# Failures

A run fails for few reasons: the configuration cannot be read or holds an invalid value, Ruby cannot
be parsed here, a file is no Ruby file, or something unforeseen happens. Each cause has a code, a
message and the details that the message is made of. Malformed source or spec files are no failures.
-/
namespace SpecLint.Report

open SpecLint.Data

inductive ErrorCode where
  | configSyntax
  | configValue
  | configMissing
  | grammarMissing
  | notRuby
  | unexpected
  deriving DecidableEq, Repr

namespace ErrorCode

def number : ErrorCode → Nat
  | configSyntax => 2001
  | configValue => 2002
  | configMissing => 2004
  | grammarMissing => 3001
  | notRuby => 3002
  | unexpected => 9001

def name : ErrorCode → String
  | configSyntax => "CONFIG_PARSE_ERROR"
  | configValue => "CONFIG_INVALID_VALUE"
  | configMissing => "CONFIG_FILE_NOT_FOUND"
  | grammarMissing => "PARSE_GRAMMAR_UNAVAILABLE"
  | notRuby => "PARSE_UNSUPPORTED_FILE"
  | unexpected => "INTERNAL_ERROR"

def all : List ErrorCode :=
  [configSyntax, configValue, configMissing, grammarMissing, notRuby, unexpected]

def ofNumber? (number : Int) : Option ErrorCode :=
  all.find? fun code => (code.number : Int) == number

theorem ofNumber?_number (code : ErrorCode) : ofNumber? code.number = some code := by
  cases code <;> decide

end ErrorCode

/-- The families of causes. -/
inductive Family where
  | general
  | config
  | parsing
  | internal
  deriving DecidableEq, Repr

inductive Failure where
  /-- The configuration file is malformed or no mapping. -/
  | configSyntax (path reason : String)
  | configValue (field : String) (value : Value) (reason : String)
  | configMissing (path : String)
  | grammarMissing (language reason : String)
  | notRuby (path : String)
  | unexpected (reason : String) (details : Entries)
  /-- A failure given by its code. -/
  | coded (code : ErrorCode) (message : String) (retryable : Bool) (details : Entries)
  deriving Repr

namespace Failure

def code : Failure → ErrorCode
  | configSyntax .. => .configSyntax
  | configValue .. => .configValue
  | configMissing .. => .configMissing
  | grammarMissing .. => .grammarMissing
  | notRuby .. => .notRuby
  | unexpected .. => .unexpected
  | coded code .. => code

def family : Failure → Family
  | configSyntax .. | configValue .. | configMissing .. => .config
  | grammarMissing .. | notRuby .. => .parsing
  | unexpected .. => .internal
  | coded .. => .general

def message : Failure → String
  | configSyntax path reason => "Failed to parse config at " ++ path ++ ": " ++ reason
  | configValue field _ reason => "Invalid value for '" ++ field ++ "': " ++ reason
  | configMissing path => "Config file not found: " ++ path
  | grammarMissing language reason => "Grammar not available for " ++ language ++ ": " ++ reason
  | notRuby path => "Not a Ruby source file: " ++ path
  | unexpected reason _ => "Internal error: " ++ reason
  | coded _ message _ _ => message

def retryable : Failure → Bool
  | coded _ _ retryable _ => retryable
  | _ => false

def details : Failure → Entries
  | configSyntax path reason => [(.text "path", .text path), (.text "reason", .text reason)]
  | configValue field value reason =>
    [(.text "field", .text field), (.text "value", .text value.rendered),
      (.text "reason", .text reason)]
  | configMissing path => [(.text "path", .text path)]
  | grammarMissing language reason =>
    [(.text "language", .text language), (.text "reason", .text reason)]
  | notRuby path => [(.text "path", .text path)]
  | unexpected _ details => details
  | coded _ _ _ details => details

/-- The failure on one line. -/
def summary (failure : Failure) : String :=
  "[" ++ String.ofList (natText failure.code.number) ++ "] " ++ failure.code.name ++ ": " ++
    failure.message

/-- The failure for structured reports. -/
def toValue (failure : Failure) : Value :=
  .record [("code", .nat failure.code.number), ("error", .text failure.code.name),
    ("message", .text failure.message), ("retryable", .bool failure.retryable),
    ("details", .map failure.details)]

end Failure

end SpecLint.Report
