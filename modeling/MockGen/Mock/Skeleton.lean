import MockGen.Mock.Source

/-!
# Skeletons

A source with an empty function for every prototype.  What an older skeleton holds is kept, and only
functions that it does not declare are added.
-/

namespace MockGen.Generator

open Code

def declarationText (p : Prototype) : String :=
  let type := if p.modifier == "" then p.returned.type else p.modifier ++ " " ++ p.returned.type
  let convention := match p.callingConvention with
    | some name => if name == "" then "" else " " ++ name
    | none => ""
  type ++ convention ++ " " ++ p.name ++ "(" ++ parameterText p ++ ")"

def declarationNeeds (p : Prototype) : List Need :=
  [.shown .modifier, .text .returnType, .shown .argsString] ++
    (if p.varArg.isSome then [.text .argsString] else []) ++ [.shown .name]

def declares (existing : String) (p : Prototype) : Bool :=
  Text.hasPart (declarationText p).toList existing.toList

def stub (d : Draft) : List Chunk :=
  [d.render [] fun p =>
      lines [declarationText p, "\x7b", "  /*TODO: Implement Haha Me!*/"],
    d.render [.eachArg] fun _ => ""] ++
  d.fill.args.zipIdx.map (fun (a, i) =>
    d.render [.shown (.argName i)] fun _ => lines ["  (void)" ++ a.name ++ ";"]) ++
  [d.render [.returnVoid] fun p =>
    let type := p.returned.type
    lines (only (!p.returned.isVoid) [s!"  return ({type})0;"] ++ ["\x7d", ""])]

def addition (existing : String) (d : Draft) : List Chunk :=
  let d := { d with callingConvention := d.callingConvention.filter Value.truthy }
  match d.require (declarationNeeds d.fill) with
  | .error fault => [.error fault]
  | .ok _ => if declares existing d.fill then [] else stub d

def skeletonStart (g : Generator) (moduleName : Value) (existing : String) : Chunk := do
  if existing == "" then return g.sourceIncludes ((← moduleName.asText) ++ ".h") ++ "\n"
  else if existing.toList.getLast? == some '\n' then return existing
  else return existing ++ "\n"

def skeletonChunks (g : Generator) (moduleName : Value) (existing : String) (m : Material) :
    List Chunk :=
  g.skeletonStart moduleName existing ::
    match m.functions.bind Listed.all with
    | .ok functions => functions.flatMap (addition existing)
    | .error fault => [.error fault]

end MockGen.Generator
