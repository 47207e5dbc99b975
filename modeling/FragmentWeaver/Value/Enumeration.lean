import FragmentWeaver.Script.Printer
import FragmentWeaver.World

/-!
# Members of enumerations

A member is known by its class and its value. A class of flags has a member for every union of its
flags, which is named by the flags in it.
-/

namespace FragmentWeaver.World

/-- Is the class one of flags? -/
def isFlags (w : World) (cls : String) : Bool :=
  (w.lineage (.standard cls)).contains (.standard "enum.Flag")

/-- The flags of a class, each a single bit of a value, that lie in a value, in order. -/
def flagsIn (cls : String) (value : Nat) : List String :=
  (Standard.Listing.valuesOf (Standard.classLines cls)).filterMap fun (name, source) =>
    match source.toNat? with
    | some bit =>
        if bit ≠ 0 && bit &&& (bit - 1) = 0 && bit &&& value = bit &&
            Standard.memberName? cls (.whole bit) = some name then some name
        else none
    | none => none

/-- The names of a member: one, or those of its flags. -/
def memberNames (w : World) (cls : String) (value : Script.Literal) : List String :=
  match Standard.memberName? cls value, value with
  | some name, _ => [name]
  | none, .whole i => if w.isFlags cls then flagsIn cls i.toNat else []
  | none, _ => []

/-- How a class of members writes and shows them, as its listing says. -/
def memberStyle (cls : String) : String × String :=
  match Standard.Listing.words (Standard.classLines cls) "style" with
  | [written, shown] => (written, shown)
  | _ => ("plain", "name")

/-- The written form of a member. -/
def memberWritten (w : World) (cls : String) (value : Script.Literal) : String :=
  let (space, name) := Standard.Listing.lastCut cls
  let names := w.memberNames cls value
  let title := name ++ "." ++ Text.join "|" names
  match (memberStyle cls).1 with
  | "global" =>
      let space := (Standard.Listing.lastCut space).2
      Text.join "|" (names.map fun n => space ++ "." ++ n)
  | "bare" => "<" ++ title ++ ">"
  | _ => "<" ++ (if names.isEmpty then name else title) ++ ": " ++ value.source ++ ">"

/-- The shown form of a member. -/
def memberShown (w : World) (cls : String) (value : Script.Literal) : String :=
  match (memberStyle cls).2, value with
  | "written", _ => w.memberWritten cls value
  | "value", .text s => s
  | "value", value => value.source
  | _, _ => (Standard.Listing.lastCut cls).2 ++ "." ++ Text.join "|" (w.memberNames cls value)

/-- The member of a class of flags that two values make together, of which one at least is a member
    of it; the other may be a number where members are numbers. -/
def flagUnion? (w : World) (x y : Value) : Option Value :=
  match x, y with
  | .native (.member c (.whole a)), .native (.member d (.whole b)) =>
      if c = d && w.isFlags c then some (.native (.member c (.whole (a.toNat ||| b.toNat))))
      else none
  | .native (.member c (.whole a)), .whole b | .whole b, .native (.member c (.whole a)) =>
      if 0 ≤ b && w.isFlags c && (w.lineage (.standard c)).contains (.standard "int") then
        some (.native (.member c (.whole (a.toNat ||| b.toNat))))
      else none
  | _, _ => none

/-- The names of an enumeration with their members, in order. -/
def membersOf (cls : String) : List (String × Value) :=
  (Standard.Listing.valuesOf (Standard.classLines cls)).filterMap fun (name, _) =>
    (Standard.enumMember? cls name).map fun v => (name, v)

/-- Is a name of an enumeration that of its member, and no second one for it? In a class of flags only
    single flags have names of their own. -/
def isMemberName (w : World) (cls : String) (name : String) : Value → Bool
  | .native (.member _ (.whole i)) =>
      Standard.memberName? cls (.whole i) = some name &&
        (!w.isFlags cls || (0 < i && i.toNat &&& (i.toNat - 1) = 0))
  | .native (.member _ value) => Standard.memberName? cls value = some name
  | _ => true

/-- The names of the members of an enumeration. -/
def ownMemberNames (w : World) (cls : String) : List String :=
  (membersOf cls).filterMap fun (name, v) => if w.isMemberName cls name v then some name else none

/-- The values of an enumeration with their members. -/
def membersByValue (cls : String) : List (Value × Value) :=
  (membersOf cls).filterMap fun (name, v) =>
    match v with
    | .native (.member _ value) =>
        if Standard.memberName? cls value = some name then some (value.value, v) else none
    | _ => none

end FragmentWeaver.World
