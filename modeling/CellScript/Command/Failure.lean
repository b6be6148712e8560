import CellScript.Config.Read
import CellScript.Convert.Assemble
import CellScript.Files.Host

set_option autoImplicit false

/-! # Failures

Why a command fails. A failure is reported in one go: what was attempted, and why it did not work.
-/

namespace CellScript.Command

open Json

/-- Why a command fails. -/
inductive Failure where
  | configUnread (p : Path) (e : FileError)
  | badConfig (p : Path) (source : Text) (e : Config.Error)
  | badModule (t : Text)
  | noIndent
  | templateUnread (p : Path) (e : FileError)
  | badTemplate (p : Path) (e : DocumentError)
  | noSuchInput (p : Path)
  | noTargetForDirectory
  | noTargetForInput
  | badInputExtension (p : Path)
  | badOutputExtension (p : Path)
  | targetsDiffer (asked : Format) (output : Format)
  | sameFormat (source : Format) (target : Format)
  | inputUnread (p : Path) (e : FileError)
  | notConverted (p : Path) (e : ConvertError)
  | standardInputUnread (e : FileError)
  | standardInputNotConverted (e : ConvertError)
  | directoryUnread (p : Path) (e : FileError)
  | directoryNotMade (p : Path) (e : FileError)
  | outputUnwritten (p : Path) (e : FileError)
  | someNotConverted (count : Nat)
  | configPresent (p : Path)

/-- The words for a failure. -/
def Failure.message : Failure → Text
  | configUnread p e =>
    "Failed to read config file: ".toList ++ p ++ ": ".toList ++ e.message.toList
  | badConfig p source e =>
    "Failed to parse config file: ".toList ++ p ++ ": ".toList ++
      Toml.report source e.span e.fault.message.toList
  | badModule t =>
    "Invalid namespace \"".toList ++ t ++ "\": expected a Python identifier".toList
  | noIndent => "Indentation width must be at least 1".toList
  | templateUnread p e => "Failed to read template: ".toList ++ p ++ ": ".toList ++ e.message.toList
  | badTemplate p e => "Invalid template: ".toList ++ p ++ ": ".toList ++ e.message.toList
  | noSuchInput p => "Input path does not exist: ".toList ++ p
  | noTargetForDirectory => "--to is required when converting a directory".toList
  | noTargetForInput => "--to is required when reading from stdin".toList
  | badInputExtension p =>
    "Unsupported input file extension: ".toList ++ p ++ " (expected .py or .ipynb)".toList
  | badOutputExtension p =>
    "Unsupported output file extension: ".toList ++ p ++ " (expected .py or .ipynb)".toList
  | targetsDiffer asked output =>
    ("--to " ++ asked.extension ++ " conflicts with output file extension ." ++
      output.extension).toList
  | sameFormat source target =>
    ("Cannot convert ." ++ source.extension ++ " to ." ++ target.extension ++
      ": input and output must differ in type").toList
  | inputUnread p e => "Failed to read: ".toList ++ p ++ ": ".toList ++ e.message.toList
  | notConverted p e => "Failed to convert: ".toList ++ p ++ ": ".toList ++ e.message.toList
  | standardInputUnread e => "Failed to read stdin: ".toList ++ e.message.toList
  | standardInputNotConverted e => "Failed to convert stdin: ".toList ++ e.message.toList
  | directoryUnread p e =>
    "Failed to read directory: ".toList ++ p ++ ": ".toList ++ e.message.toList
  | directoryNotMade p e =>
    "Failed to create directory: ".toList ++ p ++ ": ".toList ++ e.message.toList
  | outputUnwritten p e => "Failed to write: ".toList ++ p ++ ": ".toList ++ e.message.toList
  | someNotConverted count => Nat.toDigits 10 count ++ " files failed to convert".toList
  | configPresent p => p ++ " already exists (use --force to overwrite)".toList

end CellScript.Command
