import ViamSdk.RemoteCalls
import ViamSdk.Spatialmath

/-!
# Methods that the resources share

The codecs of the values that more than one component sends, and the methods
that most components have: to stop, to tell whether they move, to run a command
of their own, to report their status, their geometries or their readings.
-/

namespace ViamSdk

instance : Inhabited Single := ⟨⟨0⟩⟩

instance : Inhabited Struct := ⟨.empty⟩

instance : Inhabited Geometry := ⟨⟨none, .notSet, []⟩⟩

namespace MethodCodec

def struct : WireCodec Fault ProtoStruct :=
  .lossy ProtoStruct.toProto (fun o message => .ok (message.fromProto o))
    (fun sent received => received.Same sent)
    fun o o' s => ⟨_, rfl, s.same_fromProto_toProto o o'⟩

def geometry : WireCodec Fault GeometryConfig :=
  .lossy (fun _ => GeometryConfig.toProto) (fun _ => GeometryConfig.fromProto)
    (fun sent received => received = sent.withoutOrientation)
    fun _ _ g => ⟨_, g.fromProto_toProto, rfl⟩

def geometries : WireCodec Fault (List GeometryConfig) := geometry.repeated

end MethodCodec

namespace Rpc

/-- A method without arguments that returns nothing. -/
def act (method : String) : Rpc where
  Args := Unit
  Result := Unit
  method := method.toList
  takesExtra := true
  request := .nothing
  response := .nothing

/-- A method that takes arguments and returns nothing. -/
def command {α : Type} (method : String) (request : WireCodec Fault α) : Rpc where
  Args := α
  Result := Unit
  method := method.toList
  takesExtra := true
  request := request
  response := .nothing

/-- A method without arguments that returns something. -/
def query {β : Type} (method : String) (response : WireCodec Fault β) : Rpc where
  Args := Unit
  Result := β
  method := method.toList
  takesExtra := true
  request := .nothing
  response := response

def stop (method : String) : Rpc := act method

def isMoving (method : String) : Rpc where
  Args := Unit
  Result := Bool
  method := method.toList
  takesExtra := false
  request := .nothing
  response := .plain

def getStatus (method : String) : Rpc where
  Args := Unit
  Result := ProtoStruct
  method := method.toList
  takesExtra := false
  request := .nothing
  response := MethodCodec.struct

def doCommand (method : String) : Rpc where
  Args := ProtoStruct
  Result := ProtoStruct
  method := method.toList
  takesExtra := false
  request := MethodCodec.struct
  response := MethodCodec.struct

def getGeometries (method : String) : Rpc :=
  query method MethodCodec.geometries

/-- The readings are sent as the fields of a struct. -/
def getReadings (method : String) : Rpc := query method MethodCodec.struct

end Rpc

end ViamSdk
