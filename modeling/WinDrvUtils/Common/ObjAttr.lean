import WinDrvUtils.Strings.Ownership

/-!
# Object attributes

`WduObjectAttributes` builds the `OBJECT_ATTRIBUTES` that a kernel routine
takes. The name in it is a pointer to a `UNICODE_STRING`; `object_name` takes
the string by value, so the pointer is to a parameter, which is dropped when
the call returns.

A string lives at a place. `World` has the strings that are alive, each with
its place, and the memory that their buffers are in. A drop takes a string out
and releases its buffer.
-/

namespace WinDrvUtils

/-- `isize` on 64 bits -/
abbrev HANDLE := Int64

structure ObjectAttributes where
  length : UInt32
  rootDirectory : HANDLE
  objectName : Address
  attributes : UInt32
  securityDescriptor : Address
  securityQualityOfService : Address
  deriving DecidableEq, Repr

/-- `size_of::<OBJECT_ATTRIBUTES>()` for 64 bits -/
def sizeOfObjectAttributes : UInt32 := 48

structure WduObjHandleAttributes where
  bits : Int32
  deriving DecidableEq, Repr

structure WduObjectAttributes where
  objAttr : ObjectAttributes
  deriving DecidableEq, Repr

/-! ## Strings that are alive -/

/-- `place` is the address of the field `string`, a `UNICODE_STRING`. -/
structure LiveString where
  place : Address
  string : WduUnicodeString
  deriving DecidableEq, Repr

def LiveString.asPtr (live : LiveString) : Address := live.place

structure World where
  memory : Memory
  strings : List LiveString

namespace World

/-- A value comes to a place that no other string is at. -/
def enter (world : World) (live : LiveString) : Option World :=
  if live.place ≠ nullPtr ∧ live.place ∉ world.strings.map LiveString.place
  then some { world with strings := live :: world.strings }
  else none

/-- The value at a place is moved away. -/
def leave (world : World) (live : LiveString) : World :=
  { world with strings := world.strings.erase live }

def drop (world : World) (live : LiveString) : World :=
  { world.leave live with memory := live.string.drop world.memory }

/-- The buffer has not been released. -/
def BufferLive (world : World) (string : WduUnicodeString) : Prop :=
  ∀ block ∈ string.ownedBlocks, block ∈ world.memory.blocks.live

/-- There is a live string at the pointer, with a live buffer and with the
given code units. -/
def Names (world : World) (pointer : Address) (units : List UInt16) : Prop :=
  ∃ live ∈ world.strings,
    live.place = pointer ∧ world.BufferLive live.string ∧
      live.string.asSlice world.memory = units

/-- The allocated blocks are those of the live strings. -/
def Owned (world : World) : Prop :=
  world.memory.blocks.HeldBy
    (world.strings.flatMap fun live => live.string.ownedBlocks)

end World

namespace WduObjectAttributes

def default : WduObjectAttributes where
  objAttr :=
    { length := 0
      rootDirectory := 0
      objectName := nullPtr
      attributes := 0
      securityDescriptor := nullPtr
      securityQualityOfService := nullPtr }

def rootDir (attributes : WduObjectAttributes) (handle : HANDLE) :
    WduObjectAttributes :=
  { attributes with
    objAttr := { attributes.objAttr with rootDirectory := handle } }

/-- `obj_name` is a parameter: it is dropped when the function returns. -/
def objectName (attributes : WduObjectAttributes) (objName : LiveString)
    (world : World) : WduObjectAttributes × World :=
  ({ attributes with
      objAttr := { attributes.objAttr with objectName := objName.asPtr } },
    world.drop objName)

/-- The method `attributes`. -/
def setAttributes (self : WduObjectAttributes)
    (attributes : WduObjHandleAttributes) : WduObjectAttributes :=
  { self with
    objAttr :=
      { self.objAttr with attributes := attributes.bits.toUInt32 } }

def build (attributes : WduObjectAttributes) : WduObjectAttributes :=
  { attributes with
    objAttr := { attributes.objAttr with length := sizeOfObjectAttributes } }

end WduObjectAttributes

/-! ## The parameter of `object_name` -/

section Parameter

variable {world inside : World} {live : LiveString}

theorem World.enter_cases (entered : world.enter live = some inside) :
    live.place ≠ nullPtr ∧ live.place ∉ world.strings.map LiveString.place ∧
      inside = { world with strings := live :: world.strings } := by
  unfold World.enter at entered
  split at entered
  · next free =>
      exact ⟨free.1, free.2, (Option.some.inj entered).symm⟩
  · cases entered

/-- The drop leaves the strings that there were before the call. -/
theorem World.drop_of_enter (entered : world.enter live = some inside) :
    inside.drop live =
      { memory := live.string.drop world.memory
        strings := world.strings } := by
  obtain ⟨_, _, rfl⟩ := World.enter_cases entered
  simp [World.drop, World.leave]

/-- Until the drop, the pointer in the attributes is to the name. -/
theorem names_until_drop
    (entered : world.enter live = some inside)
    (buffer : inside.BufferLive live.string)
    (attributes : WduObjectAttributes) :
    inside.Names (attributes.objectName live inside).1.objAttr.objectName
      (live.string.asSlice inside.memory) := by
  obtain ⟨_, _, rfl⟩ := World.enter_cases entered
  exact ⟨live, List.mem_cons_self, rfl, buffer, rfl⟩

/-- After it there is no string at the pointer. -/
theorem not_names_objectName
    (entered : world.enter live = some inside)
    (attributes : WduObjectAttributes) (units : List UInt16) :
    ¬ (attributes.objectName live inside).2.Names
        (attributes.objectName live inside).1.objAttr.objectName units := by
  obtain ⟨_, free, _⟩ := World.enter_cases entered
  rintro ⟨other, member, same, _⟩
  have here : other ∈ world.strings := by
    rw [WduObjectAttributes.objectName, World.drop_of_enter entered] at member
    exact member
  exact free (List.mem_map.mpr ⟨other, here, same⟩)

/-- The buffer of the name is released, and no other one. -/
theorem owned_objectName
    (entered : world.enter live = some inside) (owned : inside.Owned)
    (attributes : WduObjectAttributes) :
    (attributes.objectName live inside).2.Owned := by
  have after :
      (attributes.objectName live inside).2 = inside.drop live := rfl
  rw [after, World.drop_of_enter entered]
  obtain ⟨_, _, rfl⟩ := World.enter_cases entered
  exact heldBy_stringDrop live.string owned

end Parameter

end WinDrvUtils
