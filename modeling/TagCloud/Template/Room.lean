import TagCloud.Template.Fault

/-!
# Room for what is made

A few characters can ask for a text, a row or a number that is larger than all the room there is. So
what makes something of a size that an argument gives asks for room first. Some sizes are refused in
words of their own, since no row of such a size can be counted.
-/

namespace TagCloud.Template

namespace Room

/-- The greatest number of items in a row. -/
def items : Nat := Nat.pow 2 26

/-- The greatest number of characters in a text that repeats another one. -/
def characters : Nat := Nat.pow 2 30

/-- The greatest size that can be counted. -/
def greatest : Nat := 9223372036854775807

/-- The greatest size of bytes that can be counted: there is something in front of them. -/
def greatestBytes : Nat := greatest - 33

/-- The number of items of a row without room that are made nevertheless, for what does not ask for
all of them. -/
def ahead : Nat := 1000

/-- Asks for room for so many items. -/
def ask (count : Nat) : Except Fault Unit :=
  if items < count then .error .memory else .ok ()

/-- Asks for room for so many bytes. -/
def askBytes (count : Nat) : Except Fault Unit :=
  if greatestBytes < count then .error (.beyond "byte string is too large") else ask count

end Room

end TagCloud.Template
