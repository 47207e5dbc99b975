import FragmentWeaver.Number.Whole
import FragmentWeaver.Text.Quoted

/-!
# Texts that cannot be coded

What is said about bytes that stand for no text, and about characters that have no bytes: the place
of the fault, counted from zero, and what is wrong.
-/

namespace FragmentWeaver.Text

/-- The places from one up to another one, which is not among them. -/
def placesText (first last : Nat) : String :=
  "position " ++ toString first ++ "-" ++ Number.wholeText ((last : Int) - 1)

/-- What is said about bytes that stand for no text; `byte?` is the first one. -/
def undecodableText (encoding : String) (byte? : Option UInt8) (first last : Nat) (why : String) :
    String :=
  let what := match byte? with
    | some b =>
        if last = first + 1 then
          "byte 0x" ++ String.ofList (hexDigits 2 b.toNat) ++ " in position " ++ toString first
        else "bytes in " ++ placesText first last
    | none => "bytes in " ++ placesText first last
  "'" ++ encoding ++ "' codec can't decode " ++ what ++ ": " ++ why

/-- What is said about characters that have no bytes, or no counterpart when no encoding is named;
    `char?` is the first one. -/
def unencodableText (encoding : Option String) (char? : Option Char) (first last : Nat)
    (why : String) : String :=
  let what := match char? with
    | some c =>
        if last = first + 1 then
          "character '" ++ String.ofList (numericEscape c.toNat) ++ "' in position " ++
            toString first
        else "characters in " ++ placesText first last
    | none => "characters in " ++ placesText first last
  match encoding with
  | some e => "'" ++ e ++ "' codec can't encode " ++ what ++ ": " ++ why
  | none => "can't translate " ++ what ++ ": " ++ why

end FragmentWeaver.Text
