import TacticalDesign.Number.Decimal
import TacticalDesign.Text.Quoted
import TacticalDesign.Text.Utf8
/-!
# File errors

Why a file cannot be read or written. Most causes have a number and name the path.
-/

namespace TacticalDesign

inductive FileError where
  | notFound (path : String)
  | alreadyThere (path : String)
  | notADirectory (path : String)
  | isADirectory (path : String)
  | nameTooLong (path : String)
  /-- A path with a null character names nothing. -/
  | nullInPath
  /-- The bytes of a file are no text. -/
  | undecodable (e : Text.Utf8.DecodeError)
  deriving DecidableEq, Repr

namespace FileError

def numbered (number : Nat) (words path : String) : String :=
  "[Errno " ++ Number.natText number ++ "] " ++ words ++ ": " ++ Text.quoted path

def decodeText (e : Text.Utf8.DecodeError) : String :=
  "'utf-8' codec can't decode " ++
    (if e.length = 1 then
      "byte 0x" ++ String.ofList (Text.hexText 2 e.byte.toNat) ++ " in position " ++
        Number.natText e.place
    else
      "bytes in position " ++ Number.natText e.place ++ "-" ++
        Number.natText (e.place + e.length - 1)) ++ ": " ++ e.fault.message

def message : FileError → String
  | notFound path => numbered 2 "No such file or directory" path
  | alreadyThere path => numbered 17 "File exists" path
  | notADirectory path => numbered 20 "Not a directory" path
  | isADirectory path => numbered 21 "Is a directory" path
  | nameTooLong path => numbered 36 "File name too long" path
  | nullInPath => "embedded null byte"
  | undecodable e => decodeText e

end FileError

end TacticalDesign
