import MockGen.Code

/-!
# Sample headers

The full ones hold a prototype of every shape, one after the other, behind an opening that has to be
seen through; the plain ones hold prototypes only.
-/

namespace MockGen.Sample

/-- Comments, preprocessor lines, types, and functions that are declared in unusual ways. -/
def opening : String :=
  Code.lines [
    "",
    "/* block comment with * inside */",
    "// line comment /* fake block start",
    "#ifndef HDR_H",
    "#define HDR_H",
    "#define inline noinline",
    "#include <stdint.h>",
    "#pragma asm",
    " junk asm here",
    "#pragma endasm",
    "extern \"C\" \x7b",
    "typedef void MYVOID;",
    "typedef int INT_T;",
    "struct Fwd;",
    "typedef struct \x7b int a; struct \x7b int b; \x7d inner; \x7d Foo;",
    "enum E \x7b E_A, E_B \x7d;",
    "void (*standalone_fp)(int);",
    "__attribute__((deprecated)) int attr_fn(int x);",
    "static inline int inl_add(int a, int b) " ++
      "\x7b int c = a + b; \x7b c += 1; \x7d return c; \x7d",
    "static inline int inl_decl(int a);",
    "static inline int weird_var;",
    ""]

def closing : String :=
  Code.lines ["", "\x7d", "#endif"]

def classes : String :=
  Code.lines [
    "", "",
    "namespace outer \x7b",
    "class Widget \x7b",
    "private:",
    "    static int hidden(int a);",
    "protected:",
    "    static int prot(int a);",
    "public:",
    "    static int field;",
    "\x7d;",
    "\x7d"]

def shapes : List (Nat → String) := [
  fun i => s!"void simple_v_{i}(void);",
  fun i => s!"int simple_i_{i}(void);",
  fun i => s!"void args_v_{i}(int a, float b, const char* name);",
  fun i => s!"int args_i_{i}(int a, uint8_t b, MY_T c);",
  fun i => s!"int ptr_i_{i}(int* buf, size_t len, const int* ro, int** out);",
  fun i => s!"void ptr_v_{i}(uint8_t* data, int size, void* blob, char* const cp);",
  fun i => s!"MY_T unk_ret_{i}(MY_T v, struct Foo s, struct Foo* sp);",
  fun i => s!"int __stdcall cc_{i}(int a);",
  fun i => s!"extern const char* str_{i}(BLOB_T* bp, BLOB_T b, THING_T t, MEMORY m);",
  fun i => s!"int varg_{i}(const char* fmt, ...);",
  fun i => s!"void only_varg_{i}(...);",
  fun i => s!"void arr_{i}(int data[10], enum E e, PTRISH* pp);",
  fun i => s!"void fp_arg_{i}(int (*cb)(int, int), void (__cdecl *)(void));",
  fun i => s!"void fp_short_{i}(int cb(int a, int b));",
  fun i => s!"int (*fp_ret_{i}(int a))(int, int);",
  fun i => s!"int treated_{i}(INTISH x, const INTISH y);"]

def plainShapes : List (Nat → String) := [
  fun i => s!"void lv_{i}(int a, int b, int c, int d, int e, int f);",
  fun i => s!"int  li_{i}(int* p, size_t len, const int* ro, MY_T m, float f);",
  fun i => s!"MY_T lm_{i}(struct S s, struct S* sp, uint8_t u, char* n);",
  fun i => s!"int  lr_{i}(void);"]

def prototypes (shapes : List (Nat → String)) (count : Nat) : List String :=
  (List.range count).filterMap fun i => (shapes[i % shapes.length]?).map fun shape => shape i

/-- A header with `count` prototypes of all shapes, and with classes where they are asked for. -/
def header (count : Nat) (withClasses : Bool) : String :=
  opening ++ Code.lines (prototypes shapes count) ++ closing ++ if withClasses then classes else ""

def plainHeader (count : Nat) : String :=
  "\n".intercalate (prototypes plainShapes count)

end MockGen.Sample
