/-
ExportControl.Json.Draft — a JSON document as far as it could be read.

A damaged document is not thrown away: reading stops at the first defect, and
what stood before it is kept. A form that is filled in from a draft, left to
right, then finds either a value of the wrong kind or the place where the
document breaks off, whichever comes first.

* `Draft`, `Items`, `Members` are the document, its lists and its records; a list
  or record ends in `closed`, or in `cut` where it breaks off.
* `Draft.complete` holds where nothing is broken off, which is all that a value
  nobody looks at has to meet.
* `Draft.sound` holds where every text and number can be read too, and no more
  lists and records are open at once than `room` allows.
-/
namespace ExportControl.Json

/-- A number as far as its use goes. -/
inductive Number where
  /-- A plain natural number below 2^64. -/
  | natural (n : Nat)
  /-- Any other number: signed, with a fraction or exponent, or longer. -/
  | other (literal : String)
  /-- A number past the largest double. -/
  | outOfRange (literal : String)
  deriving DecidableEq, Repr

mutual

/-- A document as far as it could be read. -/
inductive Draft where
  /-- No value can be read here. -/
  | missing
  | null
  | bool (b : Bool)
  | number (n : Number)
  /-- A text; none where it holds stray bytes or half a surrogate pair. -/
  | text (s : Option String)
  | list (items : Items)
  | record (members : Members)

/-- The items of a list. -/
inductive Items where
  | closed
  | cut
  | item (head : Draft) (tail : Items)

/-- The members of a record; the name of a member is a text like any other. -/
inductive Members where
  | closed
  | cut
  | member (name : Option String) (value : Draft) (tail : Members)

end

mutual

/-- Nothing is broken off. -/
def Draft.complete : Draft → Bool
  | .missing => false
  | .list items => items.complete
  | .record members => members.complete
  | _ => true

def Items.complete : Items → Bool
  | .closed => true
  | .cut => false
  | .item head tail => head.complete && tail.complete

def Members.complete : Members → Bool
  | .closed => true
  | .cut => false
  | .member _ value tail => value.complete && tail.complete

end

mutual

/-- Nothing is broken off, every text and number can be read, and fewer than `room` lists
and records are open at once. -/
def Draft.sound (room : Nat) : Draft → Bool
  | .missing | .text none | .number (.outOfRange _) => false
  | .list items => 1 < room && items.sound (room - 1)
  | .record members => 1 < room && members.sound (room - 1)
  | _ => true

def Items.sound (room : Nat) : Items → Bool
  | .closed => true
  | .cut => false
  | .item head tail => head.sound room && tail.sound room

def Members.sound (room : Nat) : Members → Bool
  | .closed => true
  | .cut => false
  | .member name value tail => name.isSome && value.sound room && tail.sound room

end

end ExportControl.Json
