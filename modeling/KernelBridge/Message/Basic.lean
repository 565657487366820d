import KernelBridge.Undeliverable
import KernelBridge.Json.Value

/-! # Kernel messages

A header says what kind of message it heads and which protocol version its sender speaks; all its
other keys are carried along. The type of a message is the type in its header.
-/
namespace KernelBridge
open Json

structure Header where
  msgType : String
  version : Option String
  extra : Object

namespace Header

def new (msgType : String) : Header := ⟨msgType, none, []⟩

/-- Carries another key along. -/
def withField (h : Header) (key : String) (value : Value) : Header :=
  { h with extra := h.extra.insert key value }

end Header

structure Message where
  header : Header
  parentHeader : Object
  content : Object
  metadata : Object
  extra : Object

namespace Message

def new (header : Header) (content : Object) : Message := ⟨header, [], content, [], []⟩

def msgType (m : Message) : String := m.header.msgType

def version (m : Message) : Option String := m.header.version

def retype (m : Message) (msgType : String) : Message :=
  { m with header := { m.header with msgType } }

def setVersion (m : Message) (version : Option String) : Message :=
  { m with header := { m.header with version } }

def status? (m : Message) : Option String := (m.content.get? "status").bind Value.asString?

/-- A reply that reports an error keeps its content in every version. -/
def isErrorReply (m : Message) : Bool := m.status? == some "error" || m.status? == some "aborted"

def editContent (m : Message) (rewrite : Object → Adapted Object) : Adapted Message :=
  (rewrite m.content).map fun content => { m with content }

/-- Equality up to the sign of floating zeros. -/
def same (m n : Message) : Bool :=
  m.msgType == n.msgType && m.version == n.version &&
    Value.sameFields m.header.extra n.header.extra &&
    Value.sameFields m.parentHeader n.parentHeader && Value.sameFields m.content n.content &&
    Value.sameFields m.metadata n.metadata && Value.sameFields m.extra n.extra

@[simp] theorem msgType_retype (m : Message) (t : String) : (m.retype t).msgType = t := rfl
@[simp] theorem content_retype (m : Message) (t : String) :
    (m.retype t).content = m.content := rfl
@[simp] theorem msgType_setVersion (m : Message) (v : Option String) :
    (m.setVersion v).msgType = m.msgType := rfl
@[simp] theorem content_setVersion (m : Message) (v : Option String) :
    (m.setVersion v).content = m.content := rfl

end Message

end KernelBridge
