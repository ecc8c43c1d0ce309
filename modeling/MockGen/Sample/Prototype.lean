import MockGen.Prototype

/-!
# Sample prototypes

One with a pointer through which a value can be returned, and one without parameters.
-/

namespace MockGen.Sample

def filling : Prototype where
  name := "fill"
  unscopedName := "fill"
  namespaces := []
  className := none
  modifier := ""
  callingConvention := none
  returned :=
    { type := "int", name := "cmock_to_return", str := "int cmock_to_return", isVoid := false,
      isPtr := false, isConst := false, isConstPtr := false }
  args :=
    [{ type := "int*", name := "cells", isPtr := true, isConst := false, isConstPtr := false },
      { type := "int", name := "count", isPtr := false, isConst := false, isConstPtr := false }]
  argsString := "int* cells, int count"
  argsCall := "cells, count"
  containsPtr := true
  varArg := none

def emptying : Prototype where
  name := "empty"
  unscopedName := "empty"
  namespaces := []
  className := none
  modifier := ""
  callingConvention := none
  returned :=
    { type := "void", name := "cmock_to_return", str := "void cmock_to_return", isVoid := true,
      isPtr := false, isConst := false, isConstPtr := false }
  args := []
  argsString := "void"
  argsCall := ""
  containsPtr := false
  varArg := none

def tank : Value :=
  .record [("functions", .list [filling.record, emptying.record]), ("typedefs", .list []),
    ("normalized_source", .str "")]

end MockGen.Sample
