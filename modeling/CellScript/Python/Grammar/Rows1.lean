set_option autoImplicit false

/-! # Rows of the automaton, part 1 of 6

One number per state; `Grammar.Automaton` says how it is read. -/

namespace CellScript.Python.Grammar

/-- What states 0 to 31 do with a token. -/
def moves0 : List Nat :=
  [0x30010004000020100,
   0x4d002612d00250af002432200230ed802206000210ed002005f801f506001e025001d0e3001c505801b505001a50480190c8001850400170ec801616700150e2801402a80130ec00124d280114d200104d1800f0ae800e0e2000d0ba000c0eb800b029800a1ac800905f000838a800741580063390005000100400030011ad0003204800226027c,
   0x4d002612d00250af002432200230ed802206000210ed002005f801f561801e025001d0e3001c505801b505001a56200190e10018561001712a80161a300150eb001402b001312a00124d280114d200104d1800f0ae800e0e2000d0ba000c0eb800b029800a1ac800905f000838a800741580063390005468802700030011ad0003204800226037c,
   0x4d002612d00250af002432200230ed802206000210ed002005f801f561801e025001d0e3001c505801b505001a56200190e10018561001712a80161a300150eb001402b001312a00124d280114d200104d1800f0ae800e0e2000d0ba000c0eb800b029800a1ac800905f000838a800741580063390005145802700030011ad0003204800226037c,
   0x4d002612d00250af002432200230ed802206000210ed002005f801f561801e025001d0e3001c505801b505001a56200190e10018561001712a80161a300150eb001402b001312a00124d280114d200104d1800f0ae800e0e2000d0ba000c0eb800b029800a1ac800905f000838a800741580063390005145802700030011ad0003204800226037c,
   0x4d002612d00250af002432200230ed802206000210ed002005f801f561801e025001d0e3001c505801b505001a56200190e10018561001712a80161a300150eb001402b001312a00124d280114d200104d1800f0ae800e0e2000d0ba000c0eb800b029800a1ac800905f000838a800741580063390005145802700030011ad0003204800226037c,
   0x4d002612d00250af002432200230ed802206000210ed002005f801f561801e025001d0e3001c505801b505001a56200190e10018561001712a80161a300150eb001402b001312a00124d280114d200104d1800f0ae800e0e2000d0ba000c0eb800b029800a1ac800905f000838a800741580063390005145802700030011ad0003204800226037c,
   0x4d002612d00250af002432200230ed802206000210ed002005f801f561801e025001d0e3001c505801b505001a56200190e10018561001712a80161a300150eb001402b001312a00124d280114d200104d1800f0ae800e0e2000d0ba000c0eb800b029800a1ac800905f000838a800741580063390005145802700030011ad0003204800226037c,
   0x4d002612d00250af002432200230ed802206000210ed002005f801f561801e025001d0e3001c505801b505001a56200190e10018561001712a80161a300150eb001402b001312a00124d280114d200104d1800f0ae800e0e2000d0ba000c0eb800b029800a1ac800905f000838a800741580063390005145802700030011ad0003204800226037c,
   0x4d002612d00250af002432200230ed802206000210ed002005f801f561801e025001d0e3001c505801b505001a56200190e10018561001712a80161a300150eb001402b001312a00124d280114d200104d1800f0ae800e0e2000d0ba000c0eb800b029800a1ac800905f000838a800741580063390005145802700030011ad0003204800226037c,
   0x4d002612d00250af002432200230ed802206000210ed002005f801f561801e025001d0e3001c505801b505001a56200190e10018561001712a80161a300150eb001402b001312a00124d280114d200104d1800f0ae800e0e2000d0ba000c0eb800b029800a1ac800905f000838a800741580063390005145802700030011ad0003204800226037c,
   0x4d002612d00250af002432200230ed802206000210ed002005f801f561801e025001d0e3001c505801b505001a56200190e10018561001712a80161a300150eb001402b001312a00124d280114d200104d1800f0ae800e0e2000d0ba000c0eb800b029800a1ac800905f000838a800741580063390005145802700030011ad0003204800226037c,
   0x4d002612d00250af002432200230ed802206000210ed002005f801f561801e025001d0e3001c505801b505001a56200190e10018561001712a80161a300150eb001402b001312a00124d280114d200104d1800f0ae800e0e2000d0ba000c0eb800b029800a1ac800905f000838a800741580063390005145802700030011ad0003204800226037c,
   0x4d002612d00250af002432200230ed802206000210ed002005f801f561801e025001d0e3001c505801b505001a56200190e10018561001712a80161a300150eb001402b001312a00124d280114d200104d1800f0ae800e0e2000d0ba000c0eb800b029800a1ac800905f000838a80074158006339000514d802700030011ad0003204800226037c,
   0x4d002612d00250af002432200230ed802206000210ed002005f801f561801e025001d0e3001c505801b505001a56200190e10018561001712a80161a300150eb001402b001312a00124d280114d200104d1800f0ae800e0e2000d0ba000c0eb800b029800a1ac800905f000838a800741580063390005145802700030011ad0003204800226037c,
   0x4d002612d00250af002432200230ed802206000210ed002005f801f561801e025001d0e3001c505801b505001a56200190e10018561001712a80161a300150eb001402b001312a00124d280114d200104d1800f0ae800e0e2000d0ba000c0eb800b029800a1ac800905f000838a800741580063390005145802700030011ad0003204800226037c,
   0x4d002612d00250af002432200230ed802206000210ed002005f801f561801e025001d0e3001c505801b505001a56200190e10018561001712a80161a300150eb001402b001312a00124d280114d200104d1800f0ae800e0e2000d0ba000c0eb800b029800a1ac800905f000838a800741580063390005145802700030011ad0003204800226037c,
   0x4d002612d00250af002432200230ed802206000210ed002005f801f561801e025001d0e3001c505801b505001a56200190e10018561001712a80161a300150eb001402b001312a00124d280114d200104d1800f0ae800e0e2000d0ba000c0eb800b029800a1ac800905f000838a800741580063390005145802700030011ad0003204800226037c,
   0x4d002612d00250af002432200230ed802206000210ed002005f801f561801e025001d0e3001c505801b505001a56200190e10018561001712a80161a300150eb001402b001312a00124d280114d200104d1800f0ae800e0e2000d0ba000c0eb800b029800a1ac800905f000838a800741580063390005145802700030011ad0003204800226037c,
   0x4d002612d00250af002432200230ed802206000210ed002005f801f561801e025001d0e3001c505801b505001a56200190e10018561001712a80161a300150eb001402b001312a00124d280114d200104d1800f0ae800e0e2000d0ba000c0eb800b029800a1ac800905f000838a800741580063390005145802700030011ad0003204800226037c,
   0x4d002612d00250af002432200230ed802206000210ed002005f801f561801e025001d0e3001c505801b505001a56200190e10018561001712a80161a300150eb001402b001312a00124d280114d200104d1800f0ae800e0e2000d0ba000c0eb800b029800a1ac800905f000838a80074158006339000514d802700030011ad0003204800226037c,
   0x4d002612d00250af002432200230ed802206000210ed002005f801f561801e025001d0e3001c505801b505001a56200190e10018561001712a80161a300150eb001402b001312a00124d280114d200104d1800f0ae800e0e2000d0ba000c0eb800b029800a1ac800905f000838a800741580063390005150002700030011ad0003204800226037c,
   0x4d002612d00250af002432200230ed802206000210ed002005f801f561801e025001d0e3001c505801b505001a56200190e10018561001712a80161a300150eb001402b001312a00124d280114d200104d1800f0ae800e0e2000d0ba000c0eb800b029800a1ac800905f000838a800741580063390005145802700030011ad0003204800226037c,
   0x4d002612d00250af002432200230ed802206000210ed002005f801f561801e025001d0e3001c505801b505001a56200190e10018561001712a80161a300150eb001402b001312a00124d280114d200104d1800f0ae800e0e2000d0ba000c0eb800b029800a1ac800905f000838a800741580063390005145802700030011ad0003204800226037c,
   0x4d002612d00250af002432200230ed802206000210ed002005f801f561801e025001d0e3001c505801b505001a56200190e10018561001712a80161a300150eb001402b001312a00124d280114d200104d1800f0ae800e0e2000d0ba000c0eb800b029800a1ac800905f000838a8007415800633900054f9802700030011ad0003204800226037c,
   0x4d002612d00250af002432200230ed802206000210ed002005f801f561801e025001d0e3001c505801b505001a56200190e10018561001712a80161a300150eb001402b001312a00124d280114d200104d1800f0ae800e0e2000d0ba000c0eb800b029800a1ac800905f000838a800741580063390005145802700030011ad0003204800226037c,
   0x4d002612d00250af002432200230ed802206000210ed002005f801f561801e025001d0e3001c505801b505001a56200190e10018561001712a80161a300150eb001402b001312a00124d280114d200104d1800f0ae800e0e2000d0ba000c0eb800b029800a1ac800905f000838a800741580063390005145802700030011ad0003204800226037c,
   0x4d002612d00250af002432200230ed802206000210ed002005f801f561801e025001d0e3001c505801b505001a56200190e10018561001712a80161a300150eb001402b001312a00124d280114d200104d1800f0ae800e0e2000d0ba000c0eb800b029800a1ac800905f000838a8007415800633900054f9802700030011ad0003204800226037c,
   0x4d002612d00250af002432200230ed802206000210ed002005f801f561801e025001d0e3001c505801b505001a56200190e10018561001712a80161a300150eb001402b001312a00124d280114d200104d1800f0ae800e0e2000d0ba000c0eb800b029800a1ac800905f000838a8007415800633900054f9802700030011ad0003204800226037c,
   0x4d002612d00250af002432200230ed802206000210ed002005f801f561801e025001d0e3001c505801b505001a56200190e10018561001712a80161a300150eb001402b001312a00124d280114d200104d1800f0ae800e0e2000d0ba000c0eb800b029800a1ac800905f000838a800741580063390005145802700030011ad0003204800226037c,
   0x4d002612d00250af002432200230ed802206000210ed002005f801f561801e025001d0e3001c505801b505001a56200190e10018561001712a80161a300150eb001402b001312a00124d280114d200104d1800f0ae800e0e2000d0ba000c0eb800b029800a1ac800905f000838a80074158006339000514d802700030011ad0003204800226037c,
   0x4d002612d00250af002432200230ed802206000210ed002005f801f561801e025001d0e3001c505801b505001a56200190e10018561001712a80161a300150eb001402b001312a00124d280114d200104d1800f0ae800e0e2000d0ba000c0eb800b029800a1ac800905f000838a800741580063390005150002700030011ad0003204800226037c]

/-- Where states 0 to 31 go after a phrase. -/
def gotos0 : List Nat :=
  [0x0, 0x3b90f6590e3b80d6e20c26b0b6450aa0e09a0d0826c07646066e3059a6046610303e02409018aa0010,
   0x3b90f6590e3b80d6e20c26b0b6450a6ef10a0e0926c0764606709059a6046610304002409019420010,
   0x3b90f6590e3b80d6e20c26b0b6450a25d10a0e0926c0764606709059a6046610304202409019420010,
   0x3b90f6590e3b80d6e20c26b0b6450a2b410a0e0926c0764606709059a6046610304202409019420010,
   0x3b90f6590e3b80d6e20c26b0b6450a2e110a0e0926c0764606709059a6046610304202409019420010,
   0x3b90f6590e3b80d6e20c26b0b6450a2e310a0e0926c0764606709059a6046610304202409019420010,
   0x3b90f6590e3b80d6e20c26b0b6450a2ea10a0e0926c0764606709059a6046610304202409019420010,
   0x3b90f6590e3b80d6e20c26b0b6450a2f010a0e0926c0764606709059a6046610304202409019420010,
   0x3b90f6590e3b80d6e20c26b0b6450a2f210a0e0926c0764606709059a6046610304202409019420010,
   0x3b90f6590e3b80d6e20c26b0b6450a2f410a0e0926c0764606709059a6046610304202409019420010,
   0x3b90f6590e3b80d6e20c26b0b6450a2f610a0e0926c0764606709059a6046610304202409019420010,
   0x3b90f6590e3b80d6e20c26b0b6450a2b910a0e0926c0764606709059a6046610304202409019420010,
   0x3b90f6590e3b80d6e20c26b0b6450a28210a0e0926c0764606709059a6046610304302409019420010,
   0x3b90f6590e3b80d6e20c26b0b6450a2f910a0e0926c0764606709059a6046610304202409019420010,
   0x3b90f6590e3b80d6e20c26b0b6450a2fc10a0e0926c0764606709059a6046610304202409019420010,
   0x3b90f6590e3b80d6e20c26b0b6450a2fd10a0e0926c0764606709059a6046610304202409019420010,
   0x3b90f6590e3b80d6e20c26b0b6450a2ca10a0e0926c0764606709059a6046610304202409019420010,
   0x3b90f6590e3b80d6e20c26b0b6450a2bb10a0e0926c0764606709059a6046610304202409019420010,
   0x3b90f6590e3b80d6e20c26b0b6450a30010a0e0926c0764606709059a6046610304202409019420010,
   0x3b90f6590e3b80d6e20c26b0b6450a28510a0e0926c0764606709059a6046610304302409019420010,
   0x3b90f6590e3b80d6e20c26b0b6450a28610a0e0926c0764606709059a6046610304402409019420010,
   0x3b90f6590e3b80d6e20c26b0b6450a30210a0e0926c0764606709059a6046610304202409019420010,
   0x3b90f6590e3b80d6e20c26b0b6450a2bc10a0e0926c0764606709059a6046610304202409019420010,
   0x3b90f6590e3b80d6e20c26b0b6450a9d210a0e0926c0764606709059a6046610304602409019420010,
   0x3b90f6590e3b80d6e20c26b0b6450a30510a0e0926c0764606709059a6046610304202409019420010,
   0x3b90f6590e3b80d6e20c26b0b6450a30710a0e0926c0764606709059a6046610304202409019420010,
   0x3b90f6590e3b80d6e20c26b0b6450a9d410a0e0926c0764606709059a6046610304602409019420010,
   0x3b90f6590e3b80d6e20c26b0b6450a9d610a0e0926c0764606709059a6046610304602409019420010,
   0x3b90f6590e3b80d6e20c26b0b6450a30810a0e0926c0764606709059a6046610304202409019420010,
   0x3b90f6590e3b80d6e20c26b0b6450a28910a0e0926c0764606709059a6046610304302409019420010,
   0x3b90f6590e3b80d6e20c26b0b6450a28a10a0e0926c0764606709059a6046610304402409019420010]

/-- What states 32 to 63 do with a token. -/
def moves1 : List Nat :=
  [0x4d002612d00250af002432200230ed802206000210ed002005f801f561801e025001d0e3001c505801b505001a56200190e10018561001712a80161a300150eb001402b001312a00124d280114d200104d1800f0ae800e0e2000d0ba000c0eb800b029800a1ac800905f000838a8007415800633900054f9802700030011ad0003204800226037c,
   0x4d002612d00250af002432200230ed802206000210ed002005f801f561801e025001d0e3001c505801b505001a56200190e10018561001712a80161a300150eb001402b001312a00124d280114d200104d1800f0ae800e0e2000d0ba000c0eb800b029800a1ac800905f000838a8007415800633900054f9802700030011ad0003204800226037c,
   0x4d002612d00250af002432200230ed802206000210ed002005f801f561801e025001d0e3001c505801b505001a56200190e10018561001712a80161a300150eb001402b001312a00124d280114d200104d1800f0ae800e0e2000d0ba000c0eb800b029800a1ac800905f000838a8007415800633900054f9802700030011ad0003204800226037c,
   0x4d002612d00250af002432200230ed802206000210ed002005f801f561801e025001d0e3001c505801b505001a56200190e10018561001712a80161a300150eb001402b001312a00124d280114d200104d1800f0ae800e0e2000d0ba000c0eb800b029800a1ac800905f000838a800741580063390005152802700030011ad0003204800226037c,
   0x4d002612d00250af002432200230ed802206000210ed002005f801f561801e025001d0e3001c505801b505001a56200190e10018561001712a80161a300150eb001402b001312a00124d280114d200104d1800f0ae800e0e2000d0ba000c0eb800b029800a1ac800905f000838a800741580063390005152802700030011ad0003204800226037c,
   0x4d002612d00250af002432200230ed802206000210ed002005f801f561801e025001d0e3001c505801b505001a56200190e10018561001712a80161a300150eb001402b001312a00124d280114d200104d1800f0ae800e0e2000d0ba000c0eb800b029800a1ac800905f000838a800741580063390005152802700030011ad0003204800226037c,
   0x4d002612d00250af002432200230ed802206000210ed002005f801f561801e025001d0e3001c505801b505001a56200190e10018561001712a80161a300150eb001402b001312a00124d280114d200104d1800f0ae800e0e2000d0ba000c0eb800b029800a1ac800905f000838a800741580063390005152802700030011ad0003204800226037c,
   0x4d002612d00250af002432200230ed802206000210ed002005f801f561801e025001d0e3001c505801b505001a56200190e10018561001712a80161a300150eb001402b001312a00124d280114d200104d1800f0ae800e0e2000d0ba000c0eb800b029800a1ac800905f000838a800741580063390005152802700030011ad0003204800226037c,
   0x4d002612d00250af002432200230ed802206000210ed002005f801f561801e025001d0e3001c505801b505001a56200190e10018561001712a80161a300150eb001402b001312a00124d280114d200104d1800f0ae800e0e2000d0ba000c0eb800b029800a1ac800905f000838a800741580063390005152802700030011ad0003204800226037c,
   0x4d002612d00250af002432200230ed802206000210ed002005f801f561801e025001d0e3001c505801b505001a56200190e10018561001712a80161a300150eb001402b001312a00124d280114d200104d1800f0ae800e0e2000d0ba000c0eb800b029800a1ac800905f000838a800741580063390005152802700030011ad0003204800226037c,
   0x4d002612d00250af002432200230ed802206000210ed002005f801f561801e025001d0e3001c505801b505001a56200190e10018561001712a80161a300150eb001402b001312a00124d280114d200104d1800f0ae800e0e2000d0ba000c0eb800b029800a1ac800905f000838a800741580063390005152802700030011ad0003204800226037c,
   0x4d002612d00250af002432200230ed802206000210ed002005f801f561801e025001d0e3001c505801b505001a56200190e10018561001712a80161a300150eb001402b001312a00124d280114d200104d1800f0ae800e0e2000d0ba000c0eb800b029800a1ac800905f000838a800741580063390005152802700030011ad0003204800226037c,
   0x4d002612d00250af002432200230ed802206000210ed002005f801f561801e025001d0e3001c505801b505001a56200190e10018561001712a80161a300150eb001402b001312a00124d280114d200104d1800f0ae800e0e2000d0ba000c0eb800b029800a1ac800905f000838a800741580063390005152802700030011ad0003204800226037c,
   0x4d002612d00250af002432200230ed802206000210ed002005f801f561801e025001d0e3001c505801b505001a56200190e10018561001712a80161a300150eb001402b001312a00124d280114d200104d1800f0ae800e0e2000d0ba000c0eb800b029800a1ac800905f000838a800741580063390005155002700030011ad0003204800226037c,
   0x4d002612d00250af002432200230ed802206000210ed002005f801f561801e025001d0e3001c505801b505001a56200190e10018561001712a80161a300150eb001402b001312a00124d280114d200104d1800f0ae800e0e2000d0ba000c0eb800b029800a1ac800905f000838a800741580063390005152802700030011ad0003204800226037c,
   0x4d002612d00250af002432200230ed802206000210ed002005f801f561801e025001d0e3001c505801b505001a56200190e10018561001712a80161a300150eb001402b001312a00124d280114d200104d1800f0ae800e0e2000d0ba000c0eb800b029800a1ac800905f000838a800741580063390005152802700030011ad0003204800226037c,
   0x4d002612d00250af002432200230ed802206000210ed002005f801f561801e025001d0e3001c505801b505001a56200190e10018561001712a80161a300150eb001402b001312a00124d280114d200104d1800f0ae800e0e2000d0ba000c0eb800b029800a1ac800905f000838a800741580063390005152802700030011ad0003204800226037c,
   0x4d002612d00250af002432200230ed802206000210ed002005f801f561801e025001d0e3001c505801b505001a56200190e10018561001712a80161a300150eb001402b001312a00124d280114d200104d1800f0ae800e0e2000d0ba000c0eb800b029800a1ac800905f000838a800741580063390005152802700030011ad0003204800226037c,
   0x4d002612d00250af002432200230ed802206000210ed002005f801f561801e025001d0e3001c505801b505001a56200190e10018561001712a80161a300150eb001402b001312a00124d280114d200104d1800f0ae800e0e2000d0ba000c0eb800b029800a1ac800905f000838a800741580063390005152802700030011ad0003204800226037c,
   0x4d002612d00250af002432200230ed802206000210ed002005f801f561801e025001d0e3001c505801b505001a56200190e10018561001712a80161a300150eb001402b001312a00124d280114d200104d1800f0ae800e0e2000d0ba000c0eb800b029800a1ac800905f000838a800741580063390005152802700030011ad0003204800226037c,
   0x4d002612d00250af002432200230ed802206000210ed002005f801f561801e025001d0e3001c505801b505001a56200190e10018561001712a80161a300150eb001402b001312a00124d280114d200104d1800f0ae800e0e2000d0ba000c0eb800b029800a1ac800905f000838a800741580063390005155002700030011ad0003204800226037c,
   0x4d002612d00250af002432200230ed802206000210ed002005f801f561801e025001d0e3001c505801b505001a56200190e10018561001712a80161a300150eb001402b001312a00124d280114d200104d1800f0ae800e0e2000d0ba000c0eb800b029800a1ac800905f000838a800741580063390005157802700030011ad0003204800226037c,
   0x4d002612d00250af002432200230ed802206000210ed002005f801f561801e025001d0e3001c505801b505001a56200190e10018561001712a80161a300150eb001402b001312a00124d280114d200104d1800f0ae800e0e2000d0ba000c0eb800b029800a1ac800905f000838a800741580063390005152802700030011ad0003204800226037c,
   0x4d002612d00250af002432200230ed802206000210ed002005f801f561801e025001d0e3001c505801b505001a56200190e10018561001712a80161a300150eb001402b001312a00124d280114d200104d1800f0ae800e0e2000d0ba000c0eb800b029800a1ac800905f000838a800741580063390005152802700030011ad0003204800226037c,
   0x4d002612d00250af002432200230ed802206000210ed002005f801f561801e025001d0e3001c505801b505001a56200190e10018561001712a80161a300150eb001402b001312a00124d280114d200104d1800f0ae800e0e2000d0ba000c0eb800b029800a1ac800905f000838a800741580063390005152802700030011ad0003204800226037c,
   0x4d002612d00250af002432200230ed802206000210ed002005f801f561801e025001d0e3001c505801b505001a56200190e10018561001712a80161a300150eb001402b001312a00124d280114d200104d1800f0ae800e0e2000d0ba000c0eb800b029800a1ac800905f000838a800741580063390005152802700030011ad0003204800226037c,
   0x4d002612d00250af002432200230ed802206000210ed002005f801f561801e025001d0e3001c505801b505001a56200190e10018561001712a80161a300150eb001402b001312a00124d280114d200104d1800f0ae800e0e2000d0ba000c0eb800b029800a1ac800905f000838a800741580063390005152802700030011ad0003204800226037c,
   0x4d002612d00250af002432200230ed802206000210ed002005f801f561801e025001d0e3001c505801b505001a56200190e10018561001712a80161a300150eb001402b001312a00124d280114d200104d1800f0ae800e0e2000d0ba000c0eb800b029800a1ac800905f000838a800741580063390005155002700030011ad0003204800226037c,
   0x4d002612d00250af002432200230ed802206000210ed002005f801f561801e025001d0e3001c505801b505001a56200190e10018561001712a80161a300150eb001402b001312a00124d280114d200104d1800f0ae800e0e2000d0ba000c0eb800b029800a1ac800905f000838a800741580063390005157802700030011ad0003204800226037c,
   0x4d002612d00250af002432200230ed802206000210ed002005f801f561801e025001d0e3001c505801b505001a56200190e10018561001712a80161a300150eb001402b001312a00124d280114d200104d1800f0ae800e0e2000d0ba000c0eb800b029800a1ac800905f000838a800741580063390005468802700030011ad0003204800226037c,
   0x4d002612d00250af002432200230ed802206000210ed002005f801f506001e025001d0e3001c505801b505001a50480190c8001850400170ec801616700150e2801402a80130ec00124d280114d200104d1800f0ae800e0e2000d0ba000c0eb800b029800a1ac800905f000838a800741580063390005000900400030011ad0003204800226027c,
   0x11004011d0050115026010d02500fd02400f502300ed02200e502100d502000cd01f00c501e00bd01d00b501c00ad01b00a501a009d0190095018008d0170085016007d0150075014006d0130065012005d0110055010004d00f004500e003d00d003500c002d00b002500a001d0090015008000d0070005006000300100dd003010500226027c]

/-- Where states 32 to 63 go after a phrase. -/
def gotos1 : List Nat :=
  [0x3b90f6590e3b80d6e20c26b0b6450a9d810a0e0926c0764606709059a6046610304602409019420010,
   0x3b90f6590e3b80d6e20c26b0b6450a9d910a0e0926c0764606709059a6046610304602409019420010,
   0x3b90f6590e3b80d6e20c26b0b6450a9db10a0e0926c0764606709059a6046610304602409019420010,
   0x3b90f6590e3b80d6e20c26b0b6450a26310a0e0926c0764606709059a6046610304502409019420010,
   0x3b90f6590e3b80d6e20c26b0b6450a2bf10a0e0926c0764606709059a6046610304502409019420010,
   0x3b90f6590e3b80d6e20c26b0b6450a31a10a0e0926c0764606709059a6046610304502409019420010,
   0x3b90f6590e3b80d6e20c26b0b6450a31c10a0e0926c0764606709059a6046610304502409019420010,
   0x3b90f6590e3b80d6e20c26b0b6450a32310a0e0926c0764606709059a6046610304502409019420010,
   0x3b90f6590e3b80d6e20c26b0b6450a32910a0e0926c0764606709059a6046610304502409019420010,
   0x3b90f6590e3b80d6e20c26b0b6450a32b10a0e0926c0764606709059a6046610304502409019420010,
   0x3b90f6590e3b80d6e20c26b0b6450a32d10a0e0926c0764606709059a6046610304502409019420010,
   0x3b90f6590e3b80d6e20c26b0b6450a32f10a0e0926c0764606709059a6046610304502409019420010,
   0x3b90f6590e3b80d6e20c26b0b6450a2c410a0e0926c0764606709059a6046610304502409019420010,
   0x3b90f6590e3b80d6e20c26b0b6450a28e10a0e0926c0764606709059a6046610304702409019420010,
   0x3b90f6590e3b80d6e20c26b0b6450a33210a0e0926c0764606709059a6046610304502409019420010,
   0x3b90f6590e3b80d6e20c26b0b6450a33510a0e0926c0764606709059a6046610304502409019420010,
   0x3b90f6590e3b80d6e20c26b0b6450a33610a0e0926c0764606709059a6046610304502409019420010,
   0x3b90f6590e3b80d6e20c26b0b6450a2cc10a0e0926c0764606709059a6046610304502409019420010,
   0x3b90f6590e3b80d6e20c26b0b6450a2c610a0e0926c0764606709059a6046610304502409019420010,
   0x3b90f6590e3b80d6e20c26b0b6450a33910a0e0926c0764606709059a6046610304502409019420010,
   0x3b90f6590e3b80d6e20c26b0b6450a29110a0e0926c0764606709059a6046610304702409019420010,
   0x3b90f6590e3b80d6e20c26b0b6450a29210a0e0926c0764606709059a6046610304802409019420010,
   0x3b90f6590e3b80d6e20c26b0b6450a33b10a0e0926c0764606709059a6046610304502409019420010,
   0x3b90f6590e3b80d6e20c26b0b6450a2c710a0e0926c0764606709059a6046610304502409019420010,
   0x3b90f6590e3b80d6e20c26b0b6450a33e10a0e0926c0764606709059a6046610304502409019420010,
   0x3b90f6590e3b80d6e20c26b0b6450a34010a0e0926c0764606709059a6046610304502409019420010,
   0x3b90f6590e3b80d6e20c26b0b6450a34110a0e0926c0764606709059a6046610304502409019420010,
   0x3b90f6590e3b80d6e20c26b0b6450a29510a0e0926c0764606709059a6046610304702409019420010,
   0x3b90f6590e3b80d6e20c26b0b6450a29610a0e0926c0764606709059a6046610304802409019420010,
   0x3b90f6590e3b80d6e20c26b0b6450a70c10a0e0926c0764606709059a6046610304002409019420010,
   0x3b90f6590e3b80d6e20c26b0b6450aa0e0926c07646066e3059a6046610303f02409018aa000f,
   0x3b90f6590e3b80d6e20c26b0b6450aa0e0926c07646066e3059a6046610303f02409018aa000f]

/-- What states 64 to 95 do with a token. -/
def moves2 : List Nat :=
  [0x4d002612d00250af002432200230ed802206000210ed002005f801f561801e025001d0e3001c505801b505001a56200190e10018561001712a80161a300150eb001402b001312a00124d280114d200104d1800f0ae800e0e2000d0ba000c0eb800b029800a1ac800905f000838a80074158006339000546f802700030011ad0003204800226037c,
   0x11d00500110270115026010d02500fd02400f502300ed02200e502100d502000cd01f016501e00bd01d00b501c00ad01b00a501a015d0190155018014d0170145016013d0150135014012d0130125012005d0110055010004d00f004500e003d00d003500c002d00b002500a001d0090015008000d0070005006000300100dd003010500226037c,
   0x4d002612d00250af002432200230ed802206000210ed002005f801f561801e025001d0e3001c505801b505001a56200190e10018561001712a80161a300150eb001402b001312a00124d280114d200104d1800f0ae800e0e2000d0ba000c0eb800b029800a1ac800905f000838a800741580063390005146002700030011ad0003204800226037c,
   0x4d002612d00250af002432200230ed802206000210ed002005f801f561801e025001d0e3001c505801b505001a56200190e10018561001712a80161a300150eb001402b001312a00124d280114d200104d1800f0ae800e0e2000d0ba000c0eb800b029800a1ac800905f000838a80074158006339000514e802700030011ad0003204800226037c,
   0x4d002612d00250af002432200230ed802206000210ed002005f801f561801e025001d0e3001c505801b505001a56200190e10018561001712a80161a300150eb001402b001312a00124d280114d200104d1800f0ae800e0e2000d0ba000c0eb800b029800a1ac800905f000838a800741580063390005151002700030011ad0003204800226037c,
   0x4d002612d00250af002432200230ed802206000210ed002005f801f561801e025001d0e3001c505801b505001a56200190e10018561001712a80161a300150eb001402b001312a00124d280114d200104d1800f0ae800e0e2000d0ba000c0eb800b029800a1ac800905f000838a800741580063390005153802700030011ad0003204800226037c,
   0x4d002612d00250af002432200230ed802206000210ed002005f801f561801e025001d0e3001c505801b505001a56200190e10018561001712a80161a300150eb001402b001312a00124d280114d200104d1800f0ae800e0e2000d0ba000c0eb800b029800a1ac800905f000838a8007415800633900054fa802700030011ad0003204800226037c,
   0x4d002612d00250af002432200230ed802206000210ed002005f801f561801e025001d0e3001c505801b505001a56200190e10018561001712a80161a300150eb001402b001312a00124d280114d200104d1800f0ae800e0e2000d0ba000c0eb800b029800a1ac800905f000838a800741580063390005156002700030011ad0003204800226037c,
   0x4d002612d00250af002432200230ed802206000210ed002005f801f561801e025001d0e3001c505801b505001a56200190e10018561001712a80161a300150eb001402b001312a00124d280114d200104d1800f0ae800e0e2000d0ba000c0eb800b029800a1ac800905f000838a800741580063390005158802700030011ad0003204800226037c,
   0x520026237002532800231d3002f0658021236801d23b80133438005019502205e801f018502e017d0090175008001902d0003001018d02c016d02b23b002a291800200210290029028150486,
   0x520026237002532800231d3002f0658021236801d23b801334380050195022019d01f018502e017d0090175008016d031001902d0003001018d02c23b002a291800200210300029028150486,
   0x4d802612c80250af002432200230ed8022060002106f001f024801d0e6801c505801b505001a50b002e134801413500134d280114d200104d1800f0ae800e0e2000d0ba000c0eb800b02a000a1b2800906d800838a80074158006339000500b003317d803200030011ad00032048002200589,
   0x4d802612c80250af002432200230ed8022060002106f001f024801d0e6801c505801b505001a50b002e134801413500134d280114d200104d1800f0ae800e0e2000d0ba000c0eb800b02a000a1b2800906d800838a80074158006339000500c803317f803200030011ad00032048002200589,
   0x4d802612c80250af002432200230ed8022060002106f001f024801d0e6801c505801b505001a50b002e134801413500134d280114d200104d1800f0ae800e0e2000d0ba000c0eb800b02a000a1b2800906d800838a80074158006339000500d0033181803200030011ad00032048002200589,
   0x4d802612c80250af002432200230ed8022060002106f001f024801d0e6801c505801b505001a50b002e134801413500134d280114d200104d1800f0ae800e0e2000d0ba000c0eb800b02a000a1b2800906d800838a80074158006339000500e8033183003200030011ad00032048002200589,
   0x4d802612c80250af002432200230ed8022060002106f001f024801d0e6801c505801b505001a50b002e134801413500134d280114d200104d1800f0ae800e0e2000d0ba000c0eb800b02a000a1b2800906d800838a80074158006339000501b003319a003200030011ad00032048002200589,
   0x4d802612c80250af002432200230ed8022060002106f001f024801d0e6801c505801b505001a50b002e134801413500134d280114d200104d1800f0ae800e0e2000d0ba000c0eb800b02a000a1b2800906d800838a80074158006339000501c003319c003200030011ad00032048002200589,
   0x4d802612c80250af002432200230ed8022060002106f001f024801d0e6801c505801b505001a50b002e134801413500134d280114d200104d1800f0ae800e0e2000d0ba000c0eb800b02a000a1b2800906d800838a80074158006339000501c803319e003200030011ad00032048002200589,
   0x4d802612c80250af002432200230ed8022060002106f001f024801d0e6801c505801b505001a50b002e134801413500134d280114d200104d1800f0ae800e0e2000d0ba000c0eb800b02a000a1b2800906d800838a80074158006339000501d003319f803200030011ad00032048002200589,
   0x4e80261eb002532200231ad002f0600021339000501c502201b501f0ee803601ad00901a5008016d031001902d00030011ea803501bd02c1ea002a204800200210300029034140486,
   0x4e80261eb002532200231ad002f0600021339000501c502201b501f0ee803601ad00901a5008001902d00030011ea803501bd02c016d02b1ea002a204800200210290029034140486,
   0x52002623c002532800231d3002f065802134380050195022019d01f01cd0090175008016d031001902d000300123b8035018d02c23b002a291800200210300029037130486,
   0x52002623c002532800231d3002f065802134380050195022019d01f01cd0090175008016d031001902d000300123b8035018d02c23b002a291800200210300029037130486,
   0x4d002612d00250af002432200230ed8022060002105f801f025001d0e3001c505801b505001a133801413400134d280114d200104d1800f0ae800e0e2000d0ba000c0eb800b029800a1ac800905f000838a8007415800633900050010033375803200030011ad000320480021f057c,
   0x4d002612d00250af002432200230ed8022060002105f801f025001d0e3001c505801b505001a133801413400134d280114d200104d1800f0ae800e0e2000d0ba000c0eb800b029800a1ac800905f000838a800741580063390005001803312d803200030011ad000320480021f057c,
   0x4d002612d00250af002432200230ed8022060002105f801f025001d0e3001c505801b505001a133801413400134d280114d200104d1800f0ae800e0e2000d0ba000c0eb800b029800a1ac800905f000838a8007415800633900050020033159003200030011ad000320480021f057c,
   0x4d002612d00250af002432200230ed8022060002105f801f025001d0e3001c505801b505001a133801413400134d280114d200104d1800f0ae800e0e2000d0ba000c0eb800b029800a1ac800905f000838a800741580063390005002803316b803200030011ad000320480021f057c,
   0x4d002612d00250af002432200230ed8022060002105f801f025001d0e3001c505801b505001a133801413400134d280114d200104d1800f0ae800e0e2000d0ba000c0eb800b029800a1ac800905f000838a800741580063390005003003316c003200030011ad000320480021f057c,
   0x4d002612d00250af002432200230ed8022060002105f801f025001d0e3001c505801b505001a133801413400134d280114d200104d1800f0ae800e0e2000d0ba000c0eb800b029800a1ac800905f000838a800741580063390005003803316e803200030011ad000320480021f057c,
   0x4d002612d00250af002432200230ed8022060002105f801f025001d0e3001c505801b505001a133801413400134d280114d200104d1800f0ae800e0e2000d0ba000c0eb800b029800a1ac800905f000838a8007415800633900050040033171003200030011ad000320480021f057c,
   0x4d002612d00250af002432200230ed8022060002105f801f025001d0e3001c505801b505001a133801413400134d280114d200104d1800f0ae800e0e2000d0ba000c0eb800b029800a1ac800905f000838a8007415800633900050048033172003200030011ad000320480021f057c,
   0x4d002612d00250af002432200230ed8022060002105f801f025001d0e3001c505801b505001a133801413400134d280114d200104d1800f0ae800e0e2000d0ba000c0eb800b029800a1ac800905f000838a8007415800633900050050033172803200030011ad000320480021f057c]

/-- Where states 64 to 95 go after a phrase. -/
def gotos2 : List Nat :=
  [0x3b90f6590e3b80d6e20c26b0b6450aa0e0926c0764606709059a604661030410240901942000f,
   0x3b90f6590e3b80d6e20c26b0b6450aa0e0926c0764606709059a604661030410240901942000f,
   0x3b90f6590e3b80d6e20c26b0b6450aa0e0926c0764606709059a604661030410240901942000f,
   0x3b90f6590e3b80d6e20c26b0b6450aa0e0926c0764606709059a604661030410240901942000f,
   0x3b90f6590e3b80d6e20c26b0b6450aa0e0926c0764606709059a604661030410240901942000f,
   0x3b90f6590e3b80d6e20c26b0b6450aa0e0926c0764606709059a604661030410240901942000f,
   0x3b90f6590e3b80d6e20c26b0b6450aa0e0926c0764606709059a604661030410240901942000f,
   0x3b90f6590e3b80d6e20c26b0b6450aa0e0926c0764606709059a604661030410240901942000f,
   0x3b90f6590e3b80d6e20c26b0b6450aa0e0926c0764606709059a604661030410240901942000f,
   0x3db0f832143bd0d6bf0c4fe0b7bf13a5b097b7126aa03523110a,
   0x3db0f832143bd0d6bf0c4fe0ba5b097b7126aa035231109,
   0x3b90f7c7146590e3b80d6790c27a0b6450aa0e092fb1527b07646069a6047b71266103409018aa0010,
   0x3b90f7c7146590e3b80d6790c27a0b6450aa0e092ff1527b07646069a6047b71266103409018aa0010,
   0x3b90f7c7146590e3b80d6790c27a0b6450aa0e093031527b07646069a6047b71266103409018aa0010,
   0x3b90f7c7146590e3b80d6790c27a0b6450aa0e093061527b07646069a6047b71266103409018aa0010,
   0x3b90f7c7146590e3b80d6790c27a0b6450aa0e093341527b07646069a6047b71266103409019420010,
   0x3b90f7c7146590e3b80d6790c27a0b6450aa0e093381527b07646069a6047b71266103409019420010,
   0x3b90f7c7146590e3b80d6790c27a0b6450aa0e0933c1527b07646069a6047b71266103409019420010,
   0x3b90f7c7146590e3b80d6790c27a0b6450aa0e0933f1527b07646069a6047b71266103409019420010,
   0x3b90f3580d6e50c4240ba0e0982e16661034091108, 0x3b90f3580d6e50c4240ba0e0982e16661034091108,
   0x3db0f3bd0d7160c4fe0ba5b096aa035231107, 0x3db0f3bd0d7440c4fe0ba5b096aa035231107,
   0x3b90f6590e3b80d6e20c26b0b6450aa0e096eb1526c07646069a6046610340901927000e,
   0x3b90f6590e3b80d6e20c26b0b6450aa0e0925b1526c07646069a60466103409018aa000e,
   0x3b90f6590e3b80d6e20c26b0b6450aa0e092b21526c07646069a60466103409018aa000e,
   0x3b90f6590e3b80d6e20c26b0b6450aa0e092d71526c07646069a60466103409018aa000e,
   0x3b90f6590e3b80d6e20c26b0b6450aa0e092d81526c07646069a60466103409018aa000e,
   0x3b90f6590e3b80d6e20c26b0b6450aa0e092dd1526c07646069a60466103409018aa000e,
   0x3b90f6590e3b80d6e20c26b0b6450aa0e092e21526c07646069a60466103409018aa000e,
   0x3b90f6590e3b80d6e20c26b0b6450aa0e092e41526c07646069a60466103409018aa000e,
   0x3b90f6590e3b80d6e20c26b0b6450aa0e092e51526c07646069a60466103409018aa000e]

/-- What states 96 to 127 do with a token. -/
def moves3 : List Nat :=
  [0x4d002612d00250af002432200230ed8022060002105f801f025001d0e3001c505801b505001a133801413400134d280114d200104d1800f0ae800e0e2000d0ba000c0eb800b029800a1ac800905f000838a8007415800633900050058033175803200030011ad000320480021f057c,
   0x4d002612d00250af002432200230ed8022060002105f801f025001d0e3001c505801b505001a133801413400134d280114d200104d1800f0ae800e0e2000d0ba000c0eb800b029800a1ac800905f000838a800741580063390005006003315b003200030011ad000320480021f057c,
   0x4d002612d00250af002432200230ed8022060002105f801f025001d0e3001c505801b505001a133801413400134d280114d200104d1800f0ae800e0e2000d0ba000c0eb800b029800a1ac800905f000838a8007415800633900050068033140803200030011ad000320480021f057c,
   0x4d002612d00250af002432200230ed8022060002105f801f025001d0e3001c505801b505001a133801413400134d280114d200104d1800f0ae800e0e2000d0ba000c0eb800b029800a1ac800905f000838a8007415800633900050070033176803200030011ad000320480021f057c,
   0x4d002612d00250af002432200230ed8022060002105f801f025001d0e3001c505801b505001a133801413400134d280114d200104d1800f0ae800e0e2000d0ba000c0eb800b029800a1ac800905f000838a8007415800633900050078033178803200030011ad000320480021f057c,
   0x4d002612d00250af002432200230ed8022060002105f801f025001d0e3001c505801b505001a133801413400134d280114d200104d1800f0ae800e0e2000d0ba000c0eb800b029800a1ac800905f000838a8007415800633900050080033179803200030011ad000320480021f057c,
   0x4d002612d00250af002432200230ed8022060002105f801f025001d0e3001c505801b505001a133801413400134d280114d200104d1800f0ae800e0e2000d0ba000c0eb800b029800a1ac800905f000838a8007415800633900050088033164803200030011ad000320480021f057c,
   0x4d002612d00250af002432200230ed8022060002105f801f025001d0e3001c505801b505001a133801413400134d280114d200104d1800f0ae800e0e2000d0ba000c0eb800b029800a1ac800905f000838a800741580063390005009003315c003200030011ad000320480021f057c,
   0x4d002612d00250af002432200230ed8022060002105f801f025001d0e3001c505801b505001a133801413400134d280114d200104d1800f0ae800e0e2000d0ba000c0eb800b029800a1ac800905f000838a800741580063390005009803317b803200030011ad000320480021f057c,
   0x4d002612d00250af002432200230ed8022060002105f801f025001d0e3001c505801b505001a133801413400134d280114d200104d1800f0ae800e0e2000d0ba000c0eb800b029800a1ac800905f000838a80074158006339000500a0033141803200030011ad000320480021f057c,
   0x4d002612d00250af002432200230ed8022060002105f801f025001d0e3001c505801b505001a133801413400134d280114d200104d1800f0ae800e0e2000d0ba000c0eb800b029800a1ac800905f000838a80074158006339000500a8033142003200030011ad000320480021f057c,
   0x4d002612d00250af002432200230ed8022060002105f801f025001d0e3001c505801b505001a133801413400134d280114d200104d1800f0ae800e0e2000d0ba000c0eb800b029800a1ac800905f000838a80074158006339000500b803315d003200030011ad000320480021f057c,
   0x4d002612d00250af002432200230ed8022060002105f801f025001d0e3001c505801b505001a133801413400134d280114d200104d1800f0ae800e0e2000d0ba000c0eb800b029800a1ac800905f000838a80074158006339000500c00334e7803200030011ad000320480021f057c,
   0x4d002612d00250af002432200230ed8022060002105f801f025001d0e3001c505801b505001a133801413400134d280114d200104d1800f0ae800e0e2000d0ba000c0eb800b029800a1ac800905f000838a80074158006339000500d80334e8803200030011ad000320480021f057c,
   0x4d002612d00250af002432200230ed8022060002105f801f025001d0e3001c505801b505001a133801413400134d280114d200104d1800f0ae800e0e2000d0ba000c0eb800b029800a1ac800905f000838a80074158006339000500e00334e9803200030011ad000320480021f057c,
   0x4d002612d00250af002432200230ed8022060002105f801f025001d0e3001c505801b505001a133801413400134d280114d200104d1800f0ae800e0e2000d0ba000c0eb800b029800a1ac800905f000838a80074158006339000500f0033143803200030011ad000320480021f057c,
   0x4d002612d00250af002432200230ed8022060002105f801f025001d0e3001c505801b505001a133801413400134d280114d200104d1800f0ae800e0e2000d0ba000c0eb800b029800a1ac800905f000838a80074158006339000501000334ea803200030011ad000320480021f057c,
   0x4d002612d00250af002432200230ed8022060002105f801f025001d0e3001c505801b505001a133801413400134d280114d200104d1800f0ae800e0e2000d0ba000c0eb800b029800a1ac800905f000838a80074158006339000501080334eb803200030011ad000320480021f057c,
   0x4d002612d00250af002432200230ed8022060002105f801f025001d0e3001c505801b505001a133801413400134d280114d200104d1800f0ae800e0e2000d0ba000c0eb800b029800a1ac800905f000838a80074158006339000501100334ed003200030011ad000320480021f057c,
   0x4d002612d00250af002432200230ed8022060002105f801f025001d0e3001c505801b505001a133801413400134d280114d200104d1800f0ae800e0e2000d0ba000c0eb800b029800a1ac800905f000838a8007415800633900050118033130803200030011ad000320480021f057c,
   0x4d002612d00250af002432200230ed8022060002105f801f025001d0e3001c505801b505001a133801413400134d280114d200104d1800f0ae800e0e2000d0ba000c0eb800b029800a1ac800905f000838a800741580063390005012003315e803200030011ad000320480021f057c,
   0x4d002612d00250af002432200230ed8022060002105f801f025001d0e3001c505801b505001a133801413400134d280114d200104d1800f0ae800e0e2000d0ba000c0eb800b029800a1ac800905f000838a8007415800633900050128033188003200030011ad000320480021f057c,
   0x4d002612d00250af002432200230ed8022060002105f801f025001d0e3001c505801b505001a133801413400134d280114d200104d1800f0ae800e0e2000d0ba000c0eb800b029800a1ac800905f000838a8007415800633900050130033188803200030011ad000320480021f057c,
   0x4d002612d00250af002432200230ed8022060002105f801f025001d0e3001c505801b505001a133801413400134d280114d200104d1800f0ae800e0e2000d0ba000c0eb800b029800a1ac800905f000838a800741580063390005013803318b003200030011ad000320480021f057c,
   0x4d002612d00250af002432200230ed8022060002105f801f025001d0e3001c505801b505001a133801413400134d280114d200104d1800f0ae800e0e2000d0ba000c0eb800b029800a1ac800905f000838a800741580063390005014003318d803200030011ad000320480021f057c,
   0x4d002612d00250af002432200230ed8022060002105f801f025001d0e3001c505801b505001a133801413400134d280114d200104d1800f0ae800e0e2000d0ba000c0eb800b029800a1ac800905f000838a800741580063390005014803318e803200030011ad000320480021f057c,
   0x4d002612d00250af002432200230ed8022060002105f801f025001d0e3001c505801b505001a133801413400134d280114d200104d1800f0ae800e0e2000d0ba000c0eb800b029800a1ac800905f000838a800741580063390005015003318f003200030011ad000320480021f057c,
   0x4d002612d00250af002432200230ed8022060002105f801f025001d0e3001c505801b505001a133801413400134d280114d200104d1800f0ae800e0e2000d0ba000c0eb800b029800a1ac800905f000838a8007415800633900050158033192003200030011ad000320480021f057c,
   0x4d002612d00250af002432200230ed8022060002105f801f025001d0e3001c505801b505001a133801413400134d280114d200104d1800f0ae800e0e2000d0ba000c0eb800b029800a1ac800905f000838a8007415800633900050160033160803200030011ad000320480021f057c,
   0x4d002612d00250af002432200230ed8022060002105f801f025001d0e3001c505801b505001a133801413400134d280114d200104d1800f0ae800e0e2000d0ba000c0eb800b029800a1ac800905f000838a8007415800633900050168033146803200030011ad000320480021f057c,
   0x4d002612d00250af002432200230ed8022060002105f801f025001d0e3001c505801b505001a133801413400134d280114d200104d1800f0ae800e0e2000d0ba000c0eb800b029800a1ac800905f000838a8007415800633900050170033193003200030011ad000320480021f057c,
   0x4d002612d00250af002432200230ed8022060002105f801f025001d0e3001c505801b505001a133801413400134d280114d200104d1800f0ae800e0e2000d0ba000c0eb800b029800a1ac800905f000838a8007415800633900050178033195003200030011ad000320480021f057c]

/-- Where states 96 to 127 go after a phrase. -/
def gotos3 : List Nat :=
  [0x3b90f6590e3b80d6e20c26b0b6450aa0e092eb1526c07646069a60466103409018aa000e,
   0x3b90f6590e3b80d6e20c26b0b6450aa0e092b61526c07646069a60466103409018aa000e,
   0x3b90f6590e3b80d6e20c26b0b6450aa0e092811526c07646069a6046610340901956000e,
   0x3b90f6590e3b80d6e20c26b0b6450aa0e092ed1526c07646069a60466103409018aa000e,
   0x3b90f6590e3b80d6e20c26b0b6450aa0e092f11526c07646069a60466103409018aa000e,
   0x3b90f6590e3b80d6e20c26b0b6450aa0e092f31526c07646069a60466103409018aa000e,
   0x3b90f6590e3b80d6e20c26b0b6450aa0e092c91526c07646069a60466103409018aa000e,
   0x3b90f6590e3b80d6e20c26b0b6450aa0e092b81526c07646069a60466103409018aa000e,
   0x3b90f6590e3b80d6e20c26b0b6450aa0e092f71526c07646069a60466103409018aa000e,
   0x3b90f6590e3b80d6e20c26b0b6450aa0e092831526c07646069a6046610340901956000e,
   0x3b90f6590e3b80d6e20c26b0b6450aa0e092841526c07646069a6046610340901968000e,
   0x3b90f6590e3b80d6e20c26b0b6450aa0e092ba1526c07646069a60466103409018aa000e,
   0x3b90f6590e3b80d6e20c26b0b6450aa0e099cf1526c07646069a6046610340901973000e,
   0x3b90f6590e3b80d6e20c26b0b6450aa0e099d11526c07646069a6046610340901973000e,
   0x3b90f6590e3b80d6e20c26b0b6450aa0e099d31526c07646069a6046610340901973000e,
   0x3b90f6590e3b80d6e20c26b0b6450aa0e092871526c07646069a6046610340901956000e,
   0x3b90f6590e3b80d6e20c26b0b6450aa0e099d51526c07646069a6046610340901973000e,
   0x3b90f6590e3b80d6e20c26b0b6450aa0e099d71526c07646069a6046610340901973000e,
   0x3b90f6590e3b80d6e20c26b0b6450aa0e099da1526c07646069a6046610340901973000e,
   0x3b90f6590e3b80d6e20c26b0b6450aa0e092611526c07646069a6046610340901942000e,
   0x3b90f6590e3b80d6e20c26b0b6450aa0e092bd1526c07646069a6046610340901942000e,
   0x3b90f6590e3b80d6e20c26b0b6450aa0e093101526c07646069a6046610340901942000e,
   0x3b90f6590e3b80d6e20c26b0b6450aa0e093111526c07646069a6046610340901942000e,
   0x3b90f6590e3b80d6e20c26b0b6450aa0e093161526c07646069a6046610340901942000e,
   0x3b90f6590e3b80d6e20c26b0b6450aa0e0931b1526c07646069a6046610340901942000e,
   0x3b90f6590e3b80d6e20c26b0b6450aa0e0931d1526c07646069a6046610340901942000e,
   0x3b90f6590e3b80d6e20c26b0b6450aa0e0931e1526c07646069a6046610340901942000e,
   0x3b90f6590e3b80d6e20c26b0b6450aa0e093241526c07646069a6046610340901942000e,
   0x3b90f6590e3b80d6e20c26b0b6450aa0e092c11526c07646069a6046610340901942000e,
   0x3b90f6590e3b80d6e20c26b0b6450aa0e0928d1526c07646069a604661034090197e000e,
   0x3b90f6590e3b80d6e20c26b0b6450aa0e093261526c07646069a6046610340901942000e,
   0x3b90f6590e3b80d6e20c26b0b6450aa0e0932a1526c07646069a6046610340901942000e]

/-- What states 128 to 159 do with a token. -/
def moves4 : List Nat :=
  [0x4d002612d00250af002432200230ed8022060002105f801f025001d0e3001c505801b505001a133801413400134d280114d200104d1800f0ae800e0e2000d0ba000c0eb800b029800a1ac800905f000838a8007415800633900050180033196003200030011ad000320480021f057c,
   0x4d002612d00250af002432200230ed8022060002105f801f025001d0e3001c505801b505001a133801413400134d280114d200104d1800f0ae800e0e2000d0ba000c0eb800b029800a1ac800905f000838a8007415800633900050188033165803200030011ad000320480021f057c,
   0x4d002612d00250af002432200230ed8022060002105f801f025001d0e3001c505801b505001a133801413400134d280114d200104d1800f0ae800e0e2000d0ba000c0eb800b029800a1ac800905f000838a8007415800633900050190033161803200030011ad000320480021f057c,
   0x4d002612d00250af002432200230ed8022060002105f801f025001d0e3001c505801b505001a133801413400134d280114d200104d1800f0ae800e0e2000d0ba000c0eb800b029800a1ac800905f000838a8007415800633900050198033198003200030011ad000320480021f057c,
   0x4d002612d00250af002432200230ed8022060002105f801f025001d0e3001c505801b505001a133801413400134d280114d200104d1800f0ae800e0e2000d0ba000c0eb800b029800a1ac800905f000838a80074158006339000501a0033147803200030011ad000320480021f057c,
   0x4d002612d00250af002432200230ed8022060002105f801f025001d0e3001c505801b505001a133801413400134d280114d200104d1800f0ae800e0e2000d0ba000c0eb800b029800a1ac800905f000838a80074158006339000501a8033148003200030011ad000320480021f057c,
   0x4d002612d00250af002432200230ed8022060002105f801f025001d0e3001c505801b505001a133801413400134d280114d200104d1800f0ae800e0e2000d0ba000c0eb800b029800a1ac800905f000838a80074158006339000501b8033162803200030011ad000320480021f057c,
   0x4d002612d00250af002432200230ed8022060002105f801f025001d0e3001c505801b505001a133801413400134d280114d200104d1800f0ae800e0e2000d0ba000c0eb800b029800a1ac800905f000838a80074158006339000501d8033149803200030011ad000320480021f057c,
   0x4d002612d00250af002432200230ed8022060002105f801f025001d0e3001c505801b505001a133801413400134d280114d200104d1800f0ae800e0e2000d0ba000c0eb800b029800a1ac800905f000838a80074158006339000501e8033385003200030011ad000320480021f057c,
   0x4d002612d00250af002432200230ed8022060002105f801f025001d0e3001c505801b505001a133801413400134d280114d200104d1800f0ae800e0e2000d0ba000c0eb800b029800a1ac800905f000838a80074158006339000513f803200030011ad000320480021e047c,
   0x4d002612d00250af002432200230ed8022060002105f801f025001d0e3001c505801b505001a133801413400134d280114d200104d1800f0ae800e0e2000d0ba000c0eb800b029800a1ac800905f000838a800741580063390005140003200030011ad000320480021e047c,
   0x4d002612d00250af002432200230ed8022060002105f801f025001d0e3001c505801b505001a133801413400134d280114d200104d1800f0ae800e0e2000d0ba000c0eb800b029800a1ac800905f000838a80074158006339000547f003200030011ad000320480021e047c,
   0x4d002612d00250af002432200230ed8022060002105f801f025001d0e3001c505801b505001a133801413400134d280114d200104d1800f0ae800e0e2000d0ba000c0eb800b029800a1ac800905f000838a800741580063390005483803200030011ad000320480021e047c,
   0x4d002612d00250af002432200230ed8022060002105f801f025001d0e3001c505801b505001a133801413400134d280114d200104d1800f0ae800e0e2000d0ba000c0eb800b029800a1ac800905f000838a80074158006339000514c803200030011ad000320480021e047c,
   0x4d002612d00250af002432200230ed8022060002105f801f025001d0e3001c505801b505001a133801413400134d280114d200104d1800f0ae800e0e2000d0ba000c0eb800b029800a1ac800905f000838a80074158006339000514e003200030011ad000320480021e047c,
   0x4d002612d00250af002432200230ed8022060002105f801f025001d0e3001c505801b505001a133801413400134d280114d200104d1800f0ae800e0e2000d0ba000c0eb800b029800a1ac800905f000838a80074158006339000514f803200030011ad000320480021e047c,
   0x4d002612d00250af002432200230ed8022060002105f801f025001d0e3001c505801b505001a133801413400134d280114d200104d1800f0ae800e0e2000d0ba000c0eb800b029800a1ac800905f000838a800741580063390005150803200030011ad000320480021e047c,
   0x4d002612d00250af002432200230ed8022060002105f801f025001d0e3001c505801b505001a133801413400134d280114d200104d1800f0ae800e0e2000d0ba000c0eb800b029800a1ac800905f000838a800741580063390005152003200030011ad000320480021e047c,
   0x4d002612d00250af002432200230ed8022060002105f801f025001d0e3001c505801b505001a133801413400134d280114d200104d1800f0ae800e0e2000d0ba000c0eb800b029800a1ac800905f000838a800741580063390005153003200030011ad000320480021e047c,
   0x4d002612d00250af002432200230ed8022060002105f801f025001d0e3001c505801b505001a133801413400134d280114d200104d1800f0ae800e0e2000d0ba000c0eb800b029800a1ac800905f000838a8007415800633900054f9003200030011ad000320480021e047c,
   0x4d002612d00250af002432200230ed8022060002105f801f025001d0e3001c505801b505001a133801413400134d280114d200104d1800f0ae800e0e2000d0ba000c0eb800b029800a1ac800905f000838a8007415800633900054fa003200030011ad000320480021e047c,
   0x4d002612d00250af002432200230ed8022060002105f801f025001d0e3001c505801b505001a133801413400134d280114d200104d1800f0ae800e0e2000d0ba000c0eb800b029800a1ac800905f000838a800741580063390005154803200030011ad000320480021e047c,
   0x4d002612d00250af002432200230ed8022060002105f801f025001d0e3001c505801b505001a133801413400134d280114d200104d1800f0ae800e0e2000d0ba000c0eb800b029800a1ac800905f000838a800741580063390005155803200030011ad000320480021e047c,
   0x4d002612d00250af002432200230ed8022060002105f801f025001d0e3001c505801b505001a133801413400134d280114d200104d1800f0ae800e0e2000d0ba000c0eb800b029800a1ac800905f000838a800741580063390005157003200030011ad000320480021e047c,
   0x4d002612d00250af002432200230ed8022060002105f801f025001d0e3001c505801b505001a133801413400134d280114d200104d1800f0ae800e0e2000d0ba000c0eb800b029800a1ac800905f000838a800741580063390005158003200030011ad000320480021e047c,
   0x4d002612d00250af002432200230ed8022060002105f801f025001d0e3001c505801b505001a133801413400134d280114d200104d1800f0ae800e0e2000d0ba000c0eb800b029800a1ac800905f000838a80074158006339000500030011ad000320480021d027c,
   0x4f00260600021339000508c801f1d2800908c0008016d031001902d00030012058035205002a1ad00032048039002103000290380f0486,
   0x4f00260600021339000508c801f1d2800908c0008001902d00030012058035016d02b205002a1ad00032048039002102900290380f0486,
   0x58002606580213438005089001f1d08009088800800030012930035292802a1d30003291803901d503b003103a0d0495,
   0x4f00260600021339000508c801f1d2800908c0008001902d00030012058035205002a1ad00032048039002903c0d0489,
   0x4f00260600021339000508c801f1d2800908c000800030012058035205002a1ad00032048039002903c0c0496,
   0x58002606580213438005089001f1d08009088800800030012930035292802a1d30003291803901d503b003103d0d0496]

/-- Where states 128 to 159 go after a phrase. -/
def gotos4 : List Nat :=
  [0x3b90f6590e3b80d6e20c26b0b6450aa0e0932c1526c07646069a6046610340901942000e,
   0x3b90f6590e3b80d6e20c26b0b6450aa0e092cb1526c07646069a6046610340901942000e,
   0x3b90f6590e3b80d6e20c26b0b6450aa0e092c31526c07646069a6046610340901942000e,
   0x3b90f6590e3b80d6e20c26b0b6450aa0e093301526c07646069a6046610340901942000e,
   0x3b90f6590e3b80d6e20c26b0b6450aa0e0928f1526c07646069a604661034090197e000e,
   0x3b90f6590e3b80d6e20c26b0b6450aa0e092901526c07646069a6046610340901989000e,
   0x3b90f6590e3b80d6e20c26b0b6450aa0e092c51526c07646069a6046610340901942000e,
   0x3b90f6590e3b80d6e20c26b0b6450aa0e092931526c07646069a604661034090197e000e,
   0x3b90f6590e3b80d6e20c26b0b6450aa0e0970a1526c07646069a6046610340901927000e,
   0x3b90f6590e3b80d6e20c26b0b6450aa0e0926c07646069a60466103409019b1000d,
   0x3b90f6590e3b80d6e20c26b0b6450aa0e0926c07646069a60466103409019b1000d,
   0x3b90f6590e3b80d6e20c26b0b6450aa0e0926c07646069a60466103409019b1000d,
   0x3b90f6590e3b80d6e20c26b0b6450aa0e0926c07646069a60466103409019b1000d,
   0x3b90f6590e3b80d6e20c26b0b6450aa0e0926c07646069a60466103409019b1000d,
   0x3b90f6590e3b80d6e20c26b0b6450aa0e0926c07646069a60466103409019b1000d,
   0x3b90f6590e3b80d6e20c26b0b6450aa0e0926c07646069a60466103409019b1000d,
   0x3b90f6590e3b80d6e20c26b0b6450aa0e0926c07646069a60466103409019b1000d,
   0x3b90f6590e3b80d6e20c26b0b6450aa0e0926c07646069a60466103409019b1000d,
   0x3b90f6590e3b80d6e20c26b0b6450aa0e0926c07646069a60466103409019b1000d,
   0x3b90f6590e3b80d6e20c26b0b6450aa0e0926c07646069a60466103409019b1000d,
   0x3b90f6590e3b80d6e20c26b0b6450aa0e0926c07646069a60466103409019b1000d,
   0x3b90f6590e3b80d6e20c26b0b6450aa0e0926c07646069a60466103409019b1000d,
   0x3b90f6590e3b80d6e20c26b0b6450aa0e0926c07646069a60466103409019b1000d,
   0x3b90f6590e3b80d6e20c26b0b6450aa0e0926c07646069a60466103409019b1000d,
   0x3b90f6590e3b80d6e20c26b0b6450aa0e0926c07646069a60466103409019b1000d,
   0x3b90f6590e3b80d6e20c26b0b6450aa0e0926c07646069a60466103409019b1000d,
   0x3b90f3c00d4240b4091104, 0x3b90f3c00d4240b4091104, 0x3db0f43d0d4fe0b5231104,
   0x3b90f3c00d4240b4091104, 0x3b90f3c00d4240b4091104, 0x3db0f43d0d4fe0b5231104]

/-- What states 160 to 191 do with a token. -/
def moves5 : List Nat :=
  [0x55802606a002134b80050a1001f1d4000909d8008016d031001902d00030012660035265802a1d700032640039002903e0e0689,
   0x58002606580213438005089001f1d08009088800800030012930035292802a1d30003291803901d503b003103f0d0696,
   0x55802606a002134b80050a1001f1d4000909d8008001902d00030012660035265802a1d70003264003900290400d0689,
   0x5c802606380210f900423418005097001f1d680090930008001902d000300128500351d10003284802a280803900290410e0789,
   0x58002606580213438005089001f1d080090888008001902d00030012930035292802a1d30003291803900290430d0289,
   0x5d002606d002134f800509e001f1d780090968008001902d00030012c5003500310452c4802a1d900032c3003901d50440e0889,
   0x59802606880213498005090001f1d980090a08008001902d000300125700351d60003256802a251003900290460d0689,
   0x55802606a002134b80050a1001f1d4000909d8008001902d000300126600350031045265802a1d70003264003901d50470e0689,
   0x5b802606b802134d8005093801f1d5800908f8008001902d00030012ab00352aa802a1d800032a7803900290480d0789,
   0x58002606580213438005089001f1d08009088800800030012930035292802a1d30003291803901d503b00310490d0796,
   0x5900260670021347800509a801f1d8800909a0008001902d000300124680351d48003246002a2440039002904a0d0889,
   0x55802606a002134b80050a1001f1d4000909d800800030012660035265802a1d70003264003900290400c0696,
   0x5b802606b802134d80050031015093801f1d5800908f8008001902d00030012ab00352aa802a1d800032a7803901d504b0e0789,
   0x5c802606380213418005097001f1d680090930008001902d00030012850035016d04d1d10003284802a2808039002904c0e0789,
   0x58002606580213438005089001f1d08009088800800030012930035292802a1d30003291803901d503b003104e0d0296,
   0x5900260670021347800509a801f1d8800909a0008001902d00030012468035016d04f1d48003246002a2440039002904c0e0889,
   0x58002606580213438005089001f1d08009088800800030012930035292802a1d30003291803900290430c0296,
   0x5c802606380213418005097001f1d680090930008001902d000300128500351d10003284802a280803900290410d0789,
   0x5900260670021347800509a801f1d8800909a0008000300124680351d48003246002a2440039002904a0c0896,
   0x59802606880213498005090001f1d980090a08008000300125700351d60003256802a251003900290460c0696,
   0x58002606580213438005089001f1d08009088800800030012930035292802a1d300032918039002903b00210500d0495,
   0x58002606580213438005089001f1d08009088800800030012930035292802a1d30003291803901d503b00310510d0896,
   0x5d002606d002134f800509e001f1d780090968008001902d00030012c500352c4802a1d900032c3003900290520d0889,
   0x5b802606b802134d8005093801f1d5800908f800800030012ab00352aa802a1d800032a7803900290480c0796,
   0x5b802606b80210f9004234d8005093801f1d5800908f8008001902d00030012ab00352aa802a1d800032a78039002904b0e0789,
   0x5c802606380213418005097001f1d680090930008000300128500351d10003284802a280803900290410c0789,
   0x5d002606d002134f800509e001f1d78009096800800030012c500352c4802a1d900032c3003900290520c0896,
   0x58002606580213438005089001f1d08009088800800030012930035292802a1d300032918039002903b00210530d0295,
   0x58002606580213438005089001f1d08009088800800030012930035292802a1d30003291803901d503b00310530d0295,
   0x5500261f480250b18024328802312200220670021280005409a801f1f4001d52f002e22b00130fe80090908008347800500030011d4800322a802a2440002120889,
   0x56802623900250b10024327002311b00220638021063001f0ee0009136805506080083418005000300123600351d10003235802a280800210077c,
   0x57802624000250b180243288023122002206700211388054066801f11b800906400083478005000300123a80351d4800323a002a244000210087c]

/-- Where states 160 to 191 go after a phrase. -/
def gotos5 : List Nat :=
  [0x3cf0f3f50d4ea0b4c81104, 0x3db0f43d0d4fe0b5231104, 0x3cf0f3f50d4ea0b4c81104,
   0x3d80f4280d5480b5011104, 0x3db0f43d0d4fe0b5231104, 0x4650f4ec0d5830b5861104,
   0x3cc0f3eb0d4820b4a21104, 0x3cf0f3f50d4ea0b4c81104, 0x4040f45b0d53e0b54f1104,
   0x3db0f43d0d4fe0b5231104, 0x3c90f3df0d4ca0b4881104, 0x3cf0f3f50d4ea0b4c81104,
   0x4040f45b0d53e0b54f1104, 0x3d80f4280d5480b5011104, 0x3db0f43d0d4fe0b5231104,
   0x3c90f3df0d4ca0b4881104, 0x3db0f43d0d4fe0b5231104, 0x3d80f4280d5480b5011104,
   0x3c90f3df0d4ca0b4881104, 0x3cc0f3eb0d4820b4a21104, 0x3db0f43d0d4fe0b5231104,
   0x3db0f43d0d4fe0b5231104, 0x4650f4ec0d5830b5861104, 0x4040f45b0d53e0b54f1104,
   0x4040f45b0d53e0b54f1104, 0x3d80f4280d5480b5011104, 0x4650f4ec0d5830b5861104,
   0x3db0f43d0d4fe0b5231104, 0x3db0f43d0d4fe0b5231104,
   0x3c90fa6018755143760d65f0c4ca0ba6d098f2177fa1267a03488110b,
   0x3d80fa12188ae1b3bc0d6740c5020b8ad0aa111aa4409503079dc068ac196f603501010e,
   0x3c90fa18183760d6750c53b0b8f30aa171aa6d0953c079e9068f21767a03488010d]

/-- What states 192 to 223 do with a token. -/
def moves6 : List Nat :=
  [0x53002621d802508000243290023123802220600560688021090001f0ef802e120000950c803108980083498005000300121d00351d6000321c802a2510002120689,
   0x56802623900250b10024327002311b00220638021063001f0ee0009282005506080083418005000300123600351d10003235802a280800210077c,
   0x4d002612d00250af002432200230ed8022060002105f801f1ac800905f00083390005000300113400351ad0003133802a20480020f027c,
   0x4d002612d00250af002432200230ed8022060002105f801f1ac800905f00083390005000300113400351ad0003133802a20480020f027c,
   0x4d002612d00250af002432200230ed8022060002105f801f1ac800905f00083390005000300113400351ad0003133802a20480020f027c,
   0x56802623900250b10024327002311b00220638021063001f0ee0009314005506080083418005000300123600351d10003235802a280800210077c,
   0x57802624000250b180243288023122002206700212840054066801f11b800906400083478005000300123a80351d4800323a002a244000210087c,
   0x53002621d802508000243290023123802228580560688021090001f0ef802e1200009525003108980083498005000300121d00351d6000321c802a2510002120689,
   0x56802623900250b10024327002311b00220638021063001f0ee000929e805506080083418005000300123600351d10003235802a280800210077c,
   0x56802623900250b10024327002311b00220638021063001f0ee0009252805506080083418005000300123600351d10003235802a280800210077c,
   0x57802624000250b180243288023122002206700213148054066801f11b800906400083478005000300123a80351d4800323a002a244000210087c,
   0x53002621d802508000243290023123802229380560688021090001f0ef802e1200009530803108980083498005000300121d00351d6000321c802a2510002120689,
   0x56802623900250b10024327002311b00220638021063001f0ee000931a005506080083418005000300123600351d10003235802a280800210077c,
   0x57802624000250b1802432880231220022067002129f8054066801f11b800906400083478005000300123a80351d4800323a002a244000210087c,
   0x53002621d802508000243290023123802224700560688021090001f0ef802e1200009539803108980083498005000300121d00351d6000321c802a2510002120689,
   0x56802623900250b10024327002311b00220638021063001f0ee00092d4805506080083418005000300123600351d10003235802a280800210077c,
   0x57802624000250b180243288023122002206700212560054066801f11b800906400083478005000300123a80351d4800323a002a244000210087c,
   0x53002621d802508000243290023123802225780560688021090001f0ef802e1200009542003108980083498005000300121d00351d6000321c802a2510002120689,
   0x56802623900250b10024327002311b00220638021063001f0ee000931c805506080083418005000300123600351d10003235802a280800210077c,
   0x57802624000250b1802432880231220022067002131a8054066801f11b800906400083478005000300123a80351d4800323a002a244000210087c,
   0x53002621d802508000243290023123802226680560688021090001f0ef802e1200009548803108980083498005000300121d00351d6000321c802a2510002120689,
   0x56802623900250b10024327002311b00220638021063001f0ee000930a005506080083418005000300123600351d10003235802a280800210077c,
   0x57802624000250b180243288023122002206700212d50054066801f11b800906400083478005000300123a80351d4800323a002a244000210087c,
   0x53002621d80250800024329002312380222ab80560688021090001f0ef802e120000954e803108980083498005000300121d00351d6000321c802a2510002120689,
   0x56802623900250b10024327002311b00220638021063001f0ee00092ba805506080083418005000300123600351d10003235802a280800210077c,
   0x57802624000250b1802432880231220022067002131d0054066801f11b800906400083478005000300123a80351d4800323a002a244000210087c,
   0x53002621d80250800024329002312380222c580560688021090001f0ef802e1200009554803108980083498005000300121d00351d6000321c802a2510002120689,
   0x56802623900250b10024327002311b00220638021063001f0ee000913e005506080083418005000300123600351d10003235802a280800210077c,
   0x57802624000250b1802432880231220022067002130a8054066801f11b800906400083478005000300123a80351d4800323a002a244000210087c,
   0x57802624000250b180243288023122002206700212bb8054066801f11b800906400083478005000300123a80351d4800323a002a244000210087c,
   0x57802624000250b1802432880231220022067002113e8054066801f11b800906400083478005000300123a80351d4800323a002a244000210087c,
   0x5a00262ba0025065802106e801f1ac800906c0008343800500030012a700351d300032a6802a291800200390570d0497]

/-- Where states 192 to 223 go after a phrase. -/
def gotos6 : List Nat :=
  [0x3cc0fa1a187171d37f0d6620c4820b8b31ca7f09915176c7034a2110b,
   0x3d80fa46189281b3bc0d6850c5020b8ad0aa451a8b91f8b81ea4409503079dc066f603501010f,
   0x3b90f64b0e3b80d6ec0c26b0b64f0aa0e0926c07646069b22066103409010c,
   0x3b90f64b0e3b80d6ec0c26b0b64f0aa0e0926c07646069b32066103409010c,
   0x3b90f64b0e3b80d6ec0c26b0b64f0aa0e0926c07646069c52066103409010c,
   0x3d80fa5d189431b3bc0d6890c5020b8ad0aa111aa4409503079dc068ac196f603501010e,
   0x3c90fa49183760d6a10c53b0b8f30aa481aa6d0953c079e9068f21767a03488010d,
   0x3cc0fa4b1873d1d37f0d66b0c4820b9291ca7f09915176c7034a2110b,
   0x3d80fa6f189571b3bc0d68d0c5020b8ad0aa5c1a92d1f92c1ea4409503079dc066f603501010f,
   0x3d80fa8f189741b3bc0d6950c5020b8ad0aa111aa4409503079dc068ac196f603501010e,
   0x3c90fa60183760d6a20c53b0b8f30aa171aa6d0953c079e9068f21767a03488010d,
   0x3cc0fa621873e1d37f0d66c0c4820b9441ca7f09915176c7034a2110b,
   0x3d80fa5d189431b3bc0d6890c5020b8ad0aa451aa4409503079dc068ac196f603501010e,
   0x3c90fa72183760d6a30c53b0b8f30aa5f1aa6d0953c079e9068f21767a03488010d,
   0x3cc0fa741873f1d37f0d66d0c4820b9581ca7f09915176c7034a2110b,
   0x3d80fa5d189431b3bc0d6890c5020b8ad0aa111aa4409503079dc068ac196f603501010e,
   0x3c90fa90183760d6a50c53b0b8f30aa171aa6d0953c079e9068f21767a03488010d,
   0x3cc0fa85187401d37f0d66e0c4820b96a1ca7f09915176c7034a2110b,
   0x3d80fa5d189431b3bc0d6890c5020b8ad0aa5c1aa4409503079dc068ac196f603501010e,
   0x3c90fa60183760d6a20c53b0b8f30aa481aa6d0953c079e9068f21767a03488010d,
   0x3cc0fa92187411d37f0d66f0c4820b9751ca7f09915176c7034a2110b,
   0x3d80fa5d189431b3bc0d6890c5020b8ad0aa6e1aa4409503079dc068ac196f603501010e,
   0x3c90fa60183760d6a20c53b0b8f30aa171aa6d0953c079e9068f21767a03488010d,
   0x3cc0fa9e187421d37f0d6700c4820b9801ca7f09915176c7034a2110b,
   0x3d80fa5d189431b3bc0d6890c5020b8ad0aa801aa4409503079dc068ac196f603501010e,
   0x3c90fa60183760d6a20c53b0b8f30aa5f1aa6d0953c079e9068f21767a03488010d,
   0x3cc0faaa187431d37f0d6710c4820b98b1ca7f09915176c7034a2110b,
   0x3d80fa12188ae1b3bc0d6740c5020b8ad0aa111aa4409503079dc068ac196f603501010e,
   0x3c90fa60183760d6a20c53b0b8f30aa711aa6d0953c079e9068f21767a03488010d,
   0x3c90fa60183760d6a20c53b0b8f30aa821aa6d0953c079e9068f21767a03488010d,
   0x3c90fa18183760d6750c53b0b8f30aa171aa6d0953c079e9068f21767a03488010d,
   0x3db0f61e0d5730b6310a5740762e065230107]

/-- What states 224 to 255 do with a token. -/
def moves7 : List Nat :=
  [0x5a00262ba0025065802106e801f1ac800906c0008343800500030012a700351d300032a6802a291800200410570d0497,
   0x500026227002508000243298023124802206a0021068001f1d40009064800834b8005000300121b00351d7000321a802a26400020f027c,
   0x5b0026242002532a8023126002206d00213b3805409e001f241801d52f002e2a980131d38009096800834f800500030011d900032a9002a2c30002110889,
   0x5b0026242002532a8023126002206d00213b7805409e001f241801d52f002e2a980131d38009096800834f800500030011d900032a9002a2c30002110889,
   0x5b0026242002532a8023126002206d00213c5805409e001f241801d52f002e2a980131d38009096800834f800500030011d900032a9002a2c30002110889,
   0x5b0026242002532a8023126002206d00213c8005409e001f241801d52f002e2a980131d38009096800834f800500030011d900032a9002a2c30002110889,
   0x5b0026242002532a8023126002206d0021402005409e001f241801d52f002e2a980131d38009096800834f800500030011d900032a9002a2c30002110889,
   0x5b0026242002532a8023126002206d0021403005409e001f241801d52f002e2a980131d38009096800834f800500030011d900032a9002a2c30002110889,
   0x5b0026242002532a8023126002206d00213d5805409e001f241801d52f002e2a980131d38009096800834f800500030011d900032a9002a2c30002110889,
   0x5b0026242002532a8023126002206d00213d6805409e001f241801d52f002e2a980131d38009096800834f800500030011d900032a9002a2c30002110889,
   0x500026227002508000243298023124802206a0021068001f1d40009064800834b8005000300121b00351d7000321a802a26400020f027c,
   0x58802624580250b10024327002311b00220638021097001f0ee000927f805508d00083418005000300124500351d10003244802a280800210077c,
   0x5d80262d40025065802106b001f1da00090678008343800500030012d300351d300032d2802a291800200390300d0297,
   0x4e8026213002532200230ed8022060002108c801f212801d523802e1ea80131d1800908c0008339000500030011ad00031ea002a2048002100289,
   0x51802620b0025327002311b00220638021097001f11c002e0ee00095168031209805508d00083418005000300120a80351d1000320a002a2808002110789,
   0x5b0026242002532a8023126002206d002109e001f241801d52f002e2a980131d38009096800834f800500030011d900032a9002a2c30002100289,
   0x5200262370025328002311f80220658021089001f236801d50b002e23b80131ad80090888008343800500030011d3000323b002a2918002100289,
   0x4e8026213002532200230ed8022060002108c801f212801d523802e1ea80131d1800908c0008339000500030011ad00031ea002a2048002100289,
   0x5200262370025328002311f80220658021089001f236801d50b002e23b80131ad80090888008343800500030011d3000323b002a2918002100289,
   0x5c002628b002532a0023125802206b8021093801f11c002e122800953580312970055094000834d8005000300128a80351d8000328a002a2a78002110789,
   0x5d80262d40025065802106b001f1da00090678008343800500030012d300351d300032d2802a291800200410300d0297,
   0x5200262370025328002311f80220658021089001f236801d50b002e23b80131ad80090888008343800500030011d3000323b002a2918002100289,
   0x5200262370025328002311f80220658021089001f236801d50b002e23b80131ad80090888008343800500030011d3000323b002a2918002100289,
   0x5200262370025328002311f80220658021089001f236801d50b002e23b80131ad80090888008343800500030011d3000323b002a2918002100289,
   0x5200262370025328002311f80220658021089001f236801d50b002e23b80131ad80090888008343800500030011d3000323b002a2918002100289,
   0x5b0026242002532a8023126002206d002109e001f241801d52f002e2a980131d38009096800834f800500030011d900032a9002a2c30002100289,
   0x4e8026213002532200230ed8022060002108c801f212801d523802e1ea80131d1800908c0008339000500030011ad00031ea002a2048002100289,
   0x4e8026213002532200230ed8022060002108c801f212801d523802e1ea80131d1800908c0008339000500030011ad00031ea002a2048002100289,
   0x540026228802532a0023125802206b8021093801f228001d538002e25500131d5000908f800834d800500030011d80003254802a2a78002100289,
   0x540026228802532a0023125802206b8021093801f228001d538002e25500131d5000908f800834d800500030011d80003254802a2a78002100289,
   0x5b0026242002532a8023126002206d002109e001f241801d52f002e2a980131d38009096800834f800500030011d900032a9002a2c30002100289,
   0x5b0026242002532a8023126002206d002109e001f241801d52f002e2a980131d38009096800834f800500030011d900032a9002a2c30002100289]

/-- Where states 224 to 255 go after a phrase. -/
def gotos7 : List Nat :=
  [0x3db0f61e0d5730b6310a5740762e065230107,
   0x3cf0f3880d6a80c4a30b9ae0aa8e094a407646067ba216d0034c8010b,
   0x4650f7d0143d20d6c50c5830baa6097fa126d9035861109,
   0x4650f7d0143d20d6c50c5830baa6097fa126d9035861109,
   0x4650f7d0143d20d6c50c5830baa6097fa126d9035861109,
   0x4650f7d0143d20d6c50c5830baa6097fa126d9035861109,
   0x4650f7d0143d20d6c50c5830baa6097fa126d9035861109,
   0x4650f7d0143d20d6c50c5830baa6097fa126d9035861109,
   0x4650f7d0143d20d6c50c5830baa6097fa126d9035861109,
   0x4650f7d0143d20d6c50c5830baa6097fa126d9035861109,
   0x3cf0f3880d6a80c4a30b9ae0aa8e094a4076460681a216d0034c8010b,
   0x3d80fa5d189431b3bc0d6770c5480b8bf22a44098ac196f603501110b,
   0x3db0f63e0d5a70b64a0a5a807646065230107, 0x3b90f74f143580d6a90c4240ba0e0977712661034091109,
   0x3d80f3bc0d6780c5480b8c71fa44098c6236f6035011109,
   0x4650f755143d20d6c50c5830baa6097fa126d9035861109,
   0x3db0f7c7143bd0d6bf0c4fe0ba5b097b7126aa035231109,
   0x3b90f7c8143580d6a90c4240ba0e0977712661034091109,
   0x3db0f7c9143bd0d6bf0c4fe0ba5b097b7126aa035231109,
   0x4040f3be0d71e0c53e0b94a1fa9a09949236b50354f1109, 0x3db0f63e0d5a70b64a0a5a807646065230107,
   0x3db0f8e1143bd0d6bf0c4fe0ba5b097b7126aa035231109,
   0x3db0f8e4143bd0d6bf0c4fe0ba5b097b7126aa035231109,
   0x3db0f8e6143bd0d6bf0c4fe0ba5b097b7126aa035231109,
   0x3db0f8e9143bd0d6bf0c4fe0ba5b097b7126aa035231109,
   0x4650f7d0143d20d6c50c5830baa6097fa126d9035861109,
   0x3b90f783143580d6a90c4240ba0e0977712661034091109,
   0x3b90f784143580d6a90c4240ba0e0977712661034091109,
   0x4040f786143be0d6b30c53e0ba9a0979f126b50354f1109,
   0x4040f7f0143be0d6b30c53e0ba9a0979f126b50354f1109,
   0x4650f7ff143d20d6c50c5830baa6097fa126d9035861109,
   0x4650f800143d20d6c50c5830baa6097fa126d9035861109]

/-- What states 256 to 287 do with a token. -/
def moves8 : List Nat :=
  [0x51002623400253298023124802206a00210a1001f1d4000909d8008121000734b8005000300123380351d70003233002a0049058264000210067c,
   0x540026228802532a0023125802206b8021093801f228001d538002e25500131d5000908f800834d800500030011d80003254802a2a78002100289,
   0x540026228802532a0023125802206b8021093801f228001d538002e25500131d5000908f800834d800500030011d80003254802a2a78002100289,
   0x51802620b0025327002311b00220638021097001f11c002e0ee000952a8031289805508d00083418005000300120a80351d1000320a002a2808002110789,
   0x51802620b0025327002311b00220638021097001f11c002e0ee00095358031297005508d00083418005000300120a80351d1000320a002a2808002110789,
   0x51802620b0025327002311b00220638021097001f11c002e0ee000953e803124a805508d00083418005000300120a80351d1000320a002a2808002110789,
   0x51802620b0025327002311b00220638021097001f11c002e0ee0009546803125b805508d00083418005000300120a80351d1000320a002a2808002110789,
   0x51802620b0025327002311b00220638021097001f11c002e0ee000954c803126b005508d00083418005000300120a80351d1000320a002a2808002110789,
   0x51802620b0025327002311b00220638021097001f11c002e0ee000955280312af005508d00083418005000300120a80351d1000320a002a2808002110789,
   0x51802620b0025327002311b00220638021097001f11c002e0ee000955880312c9005508d00083418005000300120a80351d1000320a002a2808002110789,
   0x5b0026242002532a8023126002206d002109e001f241801d52f002e2a980131d38009096800834f800500030011d900032a9002a2c30002100289,
   0x5b0026242002532a8023126002206d002109e001f241801d52f002e2a980131d38009096800834f800500030011d900032a9002a2c30002100289,
   0x5b0026242002532a8023126002206d002109e001f241801d52f002e2a980131d38009096800834f800500030011d900032a9002a2c30002100289,
   0x5200262370025328002311f80220658021089001f236801d50b002e23b80131ad80090888008343800500030011d3000323b002a2918002100289,
   0x5200262370025328002311f80220658021089001f236801d50b002e23b80131ad80090888008343800500030011d3000323b002a2918002100289,
   0x5200262370025328002311f80220658021089001f236801d50b002e23b80131ad80090888008343800500030011d3000323b002a2918002100289,
   0x5200262370025328002311f80220658021089001f236801d50b002e23b80131ad80090888008343800500030011d3000323b002a2918002100289,
   0x58802624580250b10024327002311b00220638021097001f0ee000927f805508d00083418005000300124500351d10003244802a280800210077c,
   0x55002622b80250b18024328802312200220670021280005409a801f11b800909080083478005000300122b00351d4800322a802a244000210087c,
   0x58802624580250b10024327002311b00220638021097001f0ee0009243005508d00083418005000300124500351d10003244802a280800210077c,
   0x5c002628b002532a0023125802206b8021093801f11c002e122800920f8055094000834d8005000300128a80351d8000328a002a2a78002100789,
   0x5c002628b002532a0023125802206b8021093801f11c002e12280092100055094000834d8005000300128a80351d8000328a002a2a78002100789,
   0x5c002628b002532a0023125802206b8021093801f11c002e12280092108055094000834d8005000300128a80351d8000328a002a2a78002100789,
   0x5c002628b002532a0023125802206b8021093801f11c002e12280092110055094000834d8005000300128a80351d8000328a002a2a78002100789,
   0x58802624580250b10024327002311b00220638021097001f0ee0009215805508d00083418005000300124500351d10003244802a280800210077c,
   0x55002622b80250b18024328802312200220670021216005409a801f11b800909080083478005000300122b00351d4800322a802a244000210087c,
   0x58802624580250b10024327002311b00220638021097001f0ee00092a4805508d00083418005000300124500351d10003244802a280800210077c,
   0x5c002628b002532a0023125802206b8021093801f11c002e122800928f8055094000834d8005000300128a80351d8000328a002a2a78002100789,
   0x5c002628b002532a0023125802206b8021093801f11c002e12280092900055094000834d8005000300128a80351d8000328a002a2a78002100789,
   0x5c002628b002532a0023125802206b8021093801f11c002e12280092908055094000834d8005000300128a80351d8000328a002a2a78002100789,
   0x5c002628b002532a0023125802206b8021093801f11c002e12280092910055094000834d8005000300128a80351d8000328a002a2a78002100789,
   0x58802624580250b10024327002311b00220638021097001f0ee00092a0005508d00083418005000300124500351d10003244802a280800210077c]

/-- Where states 256 to 287 go after a phrase. -/
def gotos8 : List Nat :=
  [0x3cf0f3880d6b40c4ea0b80e24a8e096d0034c81108,
   0x4040f7a7143be0d6b30c53e0ba9a0979f126b50354f1109,
   0x4040f7a8143be0d6b30c53e0ba9a0979f126b50354f1109,
   0x3d80f3bc0d6860c5480b9331fa4409932236f6035011109,
   0x3d80f3bc0d68a0c5480b94a1fa4409949236f6035011109,
   0x3d80f3bc0d68e0c5480b95c1fa440995b236f6035011109,
   0x3d80f3bc0d6920c5480b96e1fa440996d236f6035011109,
   0x3d80f3bc0d6960c5480b9791fa4409978236f6035011109,
   0x3d80f3bc0d69a0c5480b9841fa4409983236f6035011109,
   0x3d80f3bc0d69e0c5480b98f1fa440998e236f6035011109,
   0x4650f7b0143d20d6c50c5830baa6097fa126d9035861109,
   0x4650f7b1143d20d6c50c5830baa6097fa126d9035861109,
   0x4650f7b2143d20d6c50c5830baa6097fa126d9035861109,
   0x3db0f99b143bd0d6bf0c4fe0ba5b097b7126aa035231109,
   0x3db0f99c143bd0d6bf0c4fe0ba5b097b7126aa035231109,
   0x3db0f99d143bd0d6bf0c4fe0ba5b097b7126aa035231109,
   0x3db0f99e143bd0d6bf0c4fe0ba5b097b7126aa035231109,
   0x3d80fa5d189431b3bc0d6890c5480ba44098ac196f603501110a,
   0x3c90fa60183760d6a20c4ca0ba6d098f21767a034881109,
   0x3d80fa81189691b3bc0d6910c5480b9471f9461ea44096f603501110b,
   0x4040f3be0d75e0c53e0b9c71fa9a099c6236b50354f1109,
   0x4040f3be0d75e0c53e0b9c71fa9a099c6236b50354f1109,
   0x4040f3be0d75e0c53e0b9c71fa9a099c6236b50354f1109,
   0x4040f3be0d75e0c53e0b9c71fa9a099c6236b50354f1109,
   0x3d80fa12188ae1b3bc0d6740c5480ba44098ac196f603501110a,
   0x3c90fa18183760d6750c4ca0ba6d098f21767a034881109,
   0x3d80fa46189281b3bc0d6850c5480b8b91f8b81ea44096f603501110b,
   0x4040f3be0d75e0c53e0b9c71fa9a099c6236b50354f1109,
   0x4040f3be0d75e0c53e0b9c71fa9a099c6236b50354f1109,
   0x4040f3be0d75e0c53e0b9c71fa9a099c6236b50354f1109,
   0x4040f3be0d75e0c53e0b9c71fa9a099c6236b50354f1109,
   0x3d80fa9b1897f1b3bc0d6990c5480ba44098ac196f603501110a]

/-- What states 288 to 319 do with a token. -/
def moves9 : List Nat :=
  [0x55002622b80250b18024328802312200220670021243805409a801f11b800909080083478005000300122b00351d4800322a802a244000210087c,
   0x58802624580250b10024327002311b00220638021097001f0ee0009268805508d00083418005000300124500351d10003244802a280800210077c,
   0x5c002628b002532a0023125802206b8021093801f11c002e122800929b8055094000834d8005000300128a80351d8000328a002a2a78002100789,
   0x5c002628b002532a0023125802206b8021093801f11c002e122800929c0055094000834d8005000300128a80351d8000328a002a2a78002100789,
   0x5c002628b002532a0023125802206b8021093801f11c002e122800929c8055094000834d8005000300128a80351d8000328a002a2a78002100789,
   0x5c002628b002532a0023125802206b8021093801f11c002e122800929d0055094000834d8005000300128a80351d8000328a002a2a78002100789,
   0x58802624580250b10024327002311b00220638021097001f0ee00092a4805508d00083418005000300124500351d10003244802a280800210077c,
   0x55002622b80250b180243288023122002206700212a0805409a801f11b800909080083478005000300122b00351d4800322a802a244000210087c,
   0x58802624580250b10024327002311b00220638021097001f0ee00092a0005508d00083418005000300124500351d10003244802a280800210077c,
   0x5c002628b002532a0023125802206b8021093801f11c002e122800924f0055094000834d8005000300128a80351d8000328a002a2a78002100789,
   0x5c002628b002532a0023125802206b8021093801f11c002e122800924f8055094000834d8005000300128a80351d8000328a002a2a78002100789,
   0x5c002628b002532a0023125802206b8021093801f11c002e12280092500055094000834d8005000300128a80351d8000328a002a2a78002100789,
   0x5c002628b002532a0023125802206b8021093801f11c002e12280092508055094000834d8005000300128a80351d8000328a002a2a78002100789,
   0x58802624580250b10024327002311b00220638021097001f0ee00092c2005508d00083418005000300124500351d10003244802a280800210077c,
   0x55002622b80250b180243288023122002206700212a5005409a801f11b800909080083478005000300122b00351d4800322a802a244000210087c,
   0x58802624580250b10024327002311b00220638021097001f0ee00092c2005508d00083418005000300124500351d10003244802a280800210077c,
   0x5c002628b002532a0023125802206b8021093801f11c002e12280092608055094000834d8005000300128a80351d8000328a002a2a78002100789,
   0x5c002628b002532a0023125802206b8021093801f11c002e12280092610055094000834d8005000300128a80351d8000328a002a2a78002100789,
   0x5c002628b002532a0023125802206b8021093801f11c002e12280092628055094000834d8005000300128a80351d8000328a002a2a78002100789,
   0x5c002628b002532a0023125802206b8021093801f11c002e12280092630055094000834d8005000300128a80351d8000328a002a2a78002100789,
   0x58802624580250b10024327002311b00220638021097001f0ee0009268805508d00083418005000300124500351d10003244802a280800210077c,
   0x55002622b80250b18024328802312200220670021269005409a801f11b800909080083478005000300122b00351d4800322a802a244000210087c,
   0x58802624580250b10024327002311b00220638021097001f0ee0009277005508d00083418005000300124500351d10003244802a280800210077c,
   0x5c002628b002532a0023125802206b8021093801f11c002e122800926f8055094000834d8005000300128a80351d8000328a002a2a78002100789,
   0x5c002628b002532a0023125802206b8021093801f11c002e12280092700055094000834d8005000300128a80351d8000328a002a2a78002100789,
   0x5c002628b002532a0023125802206b8021093801f11c002e12280092708055094000834d8005000300128a80351d8000328a002a2a78002100789,
   0x5c002628b002532a0023125802206b8021093801f11c002e12280092710055094000834d8005000300128a80351d8000328a002a2a78002100789,
   0x58802624580250b10024327002311b00220638021097001f0ee0009277005508d00083418005000300124500351d10003244802a280800210077c,
   0x55002622b80250b180243288023122002206700212c2805409a801f11b800909080083478005000300122b00351d4800322a802a244000210087c,
   0x5c002628b002532a0023125802206b8021093801f11c002e12280092b38055094000834d8005000300128a80351d8000328a002a2a78002100789,
   0x5c002628b002532a0023125802206b8021093801f11c002e12280092b40055094000834d8005000300128a80351d8000328a002a2a78002100789,
   0x5c002628b002532a0023125802206b8021093801f11c002e12280092b48055094000834d8005000300128a80351d8000328a002a2a78002100789]

/-- Where states 288 to 319 go after a phrase. -/
def gotos9 : List Nat :=
  [0x3c90fa83183760d6a40c4ca0ba6d098f21767a034881109,
   0x3d80fa6f189571b3bc0d68d0c5480b92d1f92c1ea44096f603501110b,
   0x4040f3be0d75e0c53e0b9c71fa9a099c6236b50354f1109,
   0x4040f3be0d75e0c53e0b9c71fa9a099c6236b50354f1109,
   0x4040f3be0d75e0c53e0b9c71fa9a099c6236b50354f1109,
   0x4040f3be0d75e0c53e0b9c71fa9a099c6236b50354f1109,
   0x3d80fa46189281b3bc0d6850c5480ba44098ac196f603501110a,
   0x3c90fa9c183760d6a60c4ca0ba6d098f21767a034881109,
   0x3d80fa9b1897f1b3bc0d6990c5480b8b91f8b81ea44096f603501110b,
   0x4040f3be0d75e0c53e0b9c71fa9a099c6236b50354f1109,
   0x4040f3be0d75e0c53e0b9c71fa9a099c6236b50354f1109,
   0x4040f3be0d75e0c53e0b9c71fa9a099c6236b50354f1109,
   0x4040f3be0d75e0c53e0b9c71fa9a099c6236b50354f1109,
   0x3d80faa71898a1b3bc0d69d0c5480ba44098ac196f603501110a,
   0x3c90fa49183760d6a10c4ca0ba6d098f21767a034881109,
   0x3d80faa71898a1b3bc0d69d0c5480b92d1f92c1ea44096f603501110b,
   0x4040f3be0d75e0c53e0b9c71fa9a099c6236b50354f1109,
   0x4040f3be0d75e0c53e0b9c71fa9a099c6236b50354f1109,
   0x4040f3be0d75e0c53e0b9c71fa9a099c6236b50354f1109,
   0x4040f3be0d75e0c53e0b9c71fa9a099c6236b50354f1109,
   0x3d80fa6f189571b3bc0d68d0c5480ba44098ac196f603501110a,
   0x3c90fa72183760d6a30c4ca0ba6d098f21767a034881109,
   0x3d80fa8f189741b3bc0d6950c5480b9471f9461ea44096f603501110b,
   0x4040f3be0d75e0c53e0b9c71fa9a099c6236b50354f1109,
   0x4040f3be0d75e0c53e0b9c71fa9a099c6236b50354f1109,
   0x4040f3be0d75e0c53e0b9c71fa9a099c6236b50354f1109,
   0x4040f3be0d75e0c53e0b9c71fa9a099c6236b50354f1109,
   0x3d80fa8f189741b3bc0d6950c5480ba44098ac196f603501110a,
   0x3c90faa8183760d6a70c4ca0ba6d098f21767a034881109,
   0x4040f3be0d75e0c53e0b9c71fa9a099c6236b50354f1109,
   0x4040f3be0d75e0c53e0b9c71fa9a099c6236b50354f1109,
   0x4040f3be0d75e0c53e0b9c71fa9a099c6236b50354f1109]

/-- What states 320 to 351 do with a token. -/
def moves10 : List Nat :=
  [0x5c002628b002532a0023125802206b8021093801f11c002e12280092b50055094000834d8005000300128a80351d8000328a002a2a78002100789,
   0x58802624580250b10024327002311b00220638021097001f0ee0009243005508d00083418005000300124500351d10003244802a280800210077c,
   0x55002622b80250b18024328802312200220670021277805409a801f11b800909080083478005000300122b00351d4800322a802a244000210087c,
   0x5c002628b002532a0023125802206b8021093801f11c002e12280092cd8055094000834d8005000300128a80351d8000328a002a2a78002100789,
   0x5c002628b002532a0023125802206b8021093801f11c002e12280092ce0055094000834d8005000300128a80351d8000328a002a2a78002100789,
   0x5c002628b002532a0023125802206b8021093801f11c002e12280092ce8055094000834d8005000300128a80351d8000328a002a2a78002100789,
   0x5c002628b002532a0023125802206b8021093801f11c002e12280092cf0055094000834d8005000300128a80351d8000328a002a2a78002100789,
   0x54002625580250b1002432a0023125802206b8021093801f1228009094000834d80050051055000300125500351d80003254802a2a7800210077c,
   0x54002625580250b1002432a0023125802206b8021093801f1228009094000834d80050059055000300125500351d80003254802a2a7800210077c,
   0x5c002628b002532a0023125802206b8021093801f11c002e1228009094000834d8005000300128a80351d8000328a002a2a780020f0289,
   0x5880262458025326802311b00220638021097001f1d680090930008341800500030012450035244805a1d10003006105928080020f077c,
   0x5880262458025326802311b00220638021097001f1d680090930008341800500030012450035244805a1d10003006905928080020f077c,
   0x5880262458025326802311b00220638021097001f1d680090930008341800500030012450035244805a1d10003007105928080020f077c,
   0x5880262458025326802311b00220638021097001f1d680090930008341800500030012450035244805a1d10003007905928080020f077c,
   0x5b00262aa00250b1802432a8023126002206d002109e001f1240009097800834f8005005105400030012a980351d900032a9002a2c3000210087c,
   0x51002623400253298023124802206a00210a1001f1d4000909d800834b8005000300123380351d70003233002a008105826400020f067c,
   0x5b00262aa00250b1802432a8023126002206d002109e001f1240009097800834f8005005905400030012a980351d900032a9002a2c3000210087c,
   0x51002623400253298023124802206a00210a1001f1d4000909d800834b8005000300123380351d70003233002a008905826400020f067c,
   0x55002622b802532b00231220022067002109a801f1d8800909a00083478005000300122b003522a805a1d48003006105b24400020f087c,
   0x55002622b802532b00231220022067002109a801f1d8800909a00083478005000300122b003522a805a1d48003006905b24400020f087c,
   0x55002622b802532b00231220022067002109a801f1d8800909a00083478005000300122b003522a805a1d48003007105b24400020f087c,
   0x55002622b802532b00231220022067002109a801f1d8800909a00083478005000300122b003522a805a1d48003007905b24400020f087c,
   0x510026234002508000243298023124802206a00210a1001f125000909b000834b80050051056000300123380351d70003233002a264000210067c,
   0x510026234002508000243298023124802206a00210a1001f125000909b000834b80050059056000300123380351d70003233002a264000210067c,
   0x53002621d802532b802312380220688021090001f1d980090a080083498005000300121d003521c805a1d60003006105c25100020f067c,
   0x53002621d802532b802312380220688021090001f1d980090a080083498005000300121d003521c805a1d60003006905c25100020f067c,
   0x53002621d802532b802312380220688021090001f1d980090a080083498005000300121d003521c805a1d60003007105c25100020f067c,
   0x53002621d802532b802312380220688021090001f1d980090a080083498005000300121d003521c805a1d60003007905c25100020f067c,
   0x58002606580213438005089001f1d08009088800800030012930035292802a1d3000300210582918039002903b0d0696,
   0x4e80261eb002532200230ed8022060002108c801f1d2800908c00080ef0007339000500030011ea8035009105d1ad00031ea002a204800210047c,
   0x4e80261eb002532200230ed8022060002108c801f1d2800908c00080f08007339000500030011ea8035004905d1ad00031ea002a204800210047c,
   0x52002623c0025328002311f802220c80560658021089001f0ef802e1d0800908880083438005000300123b80351d3000323b002a2918002100689]

/-- Where states 320 to 351 go after a phrase. -/
def gotos10 : List Nat :=
  [0x4040f3be0d75e0c53e0b9c71fa9a099c6236b50354f1109,
   0x3d80fa81189691b3bc0d6910c5480ba44098ac196f603501110a,
   0x3c90fa90183760d6a50c4ca0ba6d098f21767a034881109,
   0x4040f3be0d75e0c53e0b9c71fa9a099c6236b50354f1109,
   0x4040f3be0d75e0c53e0b9c71fa9a099c6236b50354f1109,
   0x4040f3be0d75e0c53e0b9c71fa9a099c6236b50354f1109,
   0x4040f3be0d75e0c53e0b9c71fa9a099c6236b50354f1109,
   0x4040f3be0d7520c53e0ba9a099ba176b50354f1108, 0x4040f3be0d7520c53e0ba9a099ba176b50354f1108,
   0x4040f3be0d75e0c53e0b9c71fa9a099c6236b50354f1109,
   0x3d80f3bc0d6f20c5480ba44097da256f6035011108, 0x3d80f3bc0d6f20c5480ba44097da256f6035011108,
   0x3d80f3bc0d6f20c5480ba44097da256f6035011108, 0x3d80f3bc0d6f20c5480ba44097da256f6035011108,
   0x4650f3d20d7810c5830baa6099e6176d9035861108, 0x3cf0f3880d6c30c4ea0ba8e096d0034c81107,
   0x4650f3d20d7810c5830baa6099e6176d9035861108, 0x3cf0f3880d6c30c4ea0ba8e096d0034c81107,
   0x3c90f3760d7000c4ca0ba6d097f52567a034881108, 0x3c90f3760d7000c4ca0ba6d097f52567a034881108,
   0x3c90f3760d7000c4ca0ba6d097f52567a034881108, 0x3c90f3760d7000c4ca0ba6d097f52567a034881108,
   0x3cf0f3880d7970c4ea0ba8e099f0176d0034c81108, 0x3cf0f3880d7970c4ea0ba8e099f0176d0034c81108,
   0x3cc0f37f0d7040c4820ba7f09808256c7034a21108, 0x3cc0f37f0d7040c4820ba7f09808256c7034a21108,
   0x3cc0f37f0d7040c4820ba7f09808256c7034a21108, 0x3cc0f37f0d7040c4820ba7f09808256c7034a21108,
   0x3db0f43d0d4fe0b5231104, 0x3b90f3580d6be0c4240b8af24a0e09661034091108,
   0x3b90f3580d6e90c4240b9ad24a0e09661034091108, 0x3db0f3bd0d7ca0c4fe0ba5b099c0266aa035231108]

/-- What states 352 to 383 do with a token. -/
def moves11 : List Nat :=
  [0x52002623c0025328002311f802220f00560658021089001f0ef802e1d0800908880083438005000300123b80351d3000323b002a2918002100689,
   0x54002625580250b1002432a0023125802206b8021093801f1228009094000834d8005000300125500351d80003254802a2a780020f027c,
   0x540026255802532a0023125802206b8021093801f1d5800908f80080ff800734d800500030012550035004904d1d80003254802a2a7800210077c,
   0x5b00262aa002532a8023126002206d002109e001f1d78009096800811e800734f800500030012a98035004904f1d900032a9002a2c3000210087c,
   0x52002623c0025328002311f802228c80560658021089001f0ef802e1d0800908880083438005000300123b80351d3000323b002a2918002100689,
   0x52002623c0025328002311f802228f00560658021089001f0ef802e1d0800908880083438005000300123b80351d3000323b002a2918002100689,
   0x5b00262aa00250b1802432a8023126002206d002109e001f1240009097800834f800500030012a980351d900032a9002a2c300020f027c,
   0x52002623c0025328002311f802229880560658021089001f0ef802e1d0800908880083438005000300123b80351d3000323b002a2918002100689,
   0x52002623c0025328002311f802229b00560658021089001f0ef802e1d0800908880083438005000300123b80351d3000323b002a2918002100689,
   0x510026234002508000243298023124802206a00210a1001f125000909b000834b8005000300123380351d70003233002a26400020f027c,
   0x52002623c0025328002311f802224c00560658021089001f0ef802e1d0800908880083438005000300123b80351d3000323b002a2918002100689,
   0x52002623c0025328002311f802224e80560658021089001f0ef802e1d0800908880083438005000300123b80351d3000323b002a2918002100689,
   0x52002623c0025328002311f802225d00560658021089001f0ef802e1d0800908880083438005000300123b80351d3000323b002a2918002100689,
   0x52002623c0025328002311f802226000560658021089001f0ef802e1d0800908880083438005000300123b80351d3000323b002a2918002100689,
   0x52002623c0025328002311f802226c80560658021089001f0ef802e1d0800908880083438005000300123b80351d3000323b002a2918002100689,
   0x52002623c0025328002311f802226f00560658021089001f0ef802e1d0800908880083438005000300123b80351d3000323b002a2918002100689,
   0x52002623c0025328002311f80222b080560658021089001f0ef802e1d0800908880083438005000300123b80351d3000323b002a2918002100689,
   0x52002623c0025328002311f80222b300560658021089001f0ef802e1d0800908880083438005000300123b80351d3000323b002a2918002100689,
   0x52002623c0025328002311f80222ca80560658021089001f0ef802e1d0800908880083438005000300123b80351d3000323b002a2918002100689,
   0x52002623c0025328002311f80222cd00560658021089001f0ef802e1d0800908880083438005000300123b80351d3000323b002a2918002100689,
   0x4e80261eb002532200230ed8022060002108c801f1d2800908c0008339000500030011ea8035009905d1ad00031ea002a20480020f047c,
   0x4e80261eb002532200230ed8022060002108c801f1d2800908c0008339000500030011ea80351ad00031ea002a008105e20480020f047c,
   0x5b00262aa002532a8023126002206d002109e001f0cf005f1d78009096800834f800500030012a9803500a104f1d900032a9002a2c3000210087c,
   0x4e80261eb002532200230ed8022060002108c801f1d2800908c0008339000500030011ea80351ad00031ea002a008905e20480020f047c,
   0x5b00262aa002532a8023126002206d002113a005409e001f0bb005f1d78009096800834f800500030012a980351d900032a9002a2c3000210087c,
   0x5b00262aa002532a8023126002206d002109e001f0d0805f1d78009096800834f800500030012a9803500a904f1d900032a9002a2c3000210087c,
   0x52002623c0025328002311f80220658021089001f0ef802e1d0800908880083438005000300123b80351d3000323b002a29180020f0289,
   0x5b00262aa002532a8023126002206d002113b805409e001f0bb005f1d78009096800834f800500030012a980351d900032a9002a2c3000210087c,
   0x58002606580213438005089001f1d08009088800800030012930035292802a00b10601d300032918039002903b0d0796,
   0x58002606580213438005089001f1d08009088800800030012930035292802a00310601d300032918039002903b0d0796,
   0x5b00262aa002532a8023126002206d002123e805409e001f0bb005f1d78009096800834f800500030012a980351d900032a9002a2c3000210087c,
   0x5b00262aa002532a8023126002206d002123f805409e001f0bb005f1d78009096800834f800500030012a980351d900032a9002a2c3000210087c]

/-- Where states 352 to 383 go after a phrase. -/
def gotos11 : List Nat :=
  [0x3db0f3bd0d7ca0c4fe0ba5b099c0266aa035231108, 0x4040f3be0d7520c53e0ba9a099ba176b50354f1108,
   0x4040f3be0d7270c53e0b9df24a9a096b50354f1108, 0x4650f3d20d72e0c5830b9ea24aa6096d9035861108,
   0x3db0f3bd0d7ca0c4fe0ba5b099c0266aa035231108, 0x3db0f3bd0d7ca0c4fe0ba5b099c0266aa035231108,
   0x4650f3d20d7810c5830baa6099e6176d9035861108, 0x3db0f3bd0d7ca0c4fe0ba5b099c0266aa035231108,
   0x3db0f3bd0d7ca0c4fe0ba5b099c0266aa035231108, 0x3cf0f3880d7970c4ea0ba8e099f0176d0034c81108,
   0x3db0f3bd0d7ca0c4fe0ba5b099c0266aa035231108, 0x3db0f3bd0d7ca0c4fe0ba5b099c0266aa035231108,
   0x3db0f3bd0d7ca0c4fe0ba5b099c0266aa035231108, 0x3db0f3bd0d7ca0c4fe0ba5b099c0266aa035231108,
   0x3db0f3bd0d7ca0c4fe0ba5b099c0266aa035231108, 0x3db0f3bd0d7ca0c4fe0ba5b099c0266aa035231108,
   0x3db0f3bd0d7ca0c4fe0ba5b099c0266aa035231108, 0x3db0f3bd0d7ca0c4fe0ba5b099c0266aa035231108,
   0x3db0f3bd0d7ca0c4fe0ba5b099c0266aa035231108, 0x3db0f3bd0d7ca0c4fe0ba5b099c0266aa035231108,
   0x3b90f3580d6e70c4240b9a824a0e09661034091108, 0x3b90f3580d6ed0c4240ba0e09661034091107,
   0x4650f3d20d71f0c5830baa6096d9035861107, 0x3b90f3580d6ed0c4240ba0e09661034091107,
   0x4650f9c8273d20d7230c5830baa6096d9035861108, 0x4650f3d20d7240c5830baa6096d9035861107,
   0x3db0f3bd0d7ca0c4fe0ba5b099c0266aa035231108, 0x4650f9c8273d20d7230c5830baa6096d9035861108,
   0x3db0f43d0d4fe0b5231104, 0x3db0f43d0d4fe0b5231104,
   0x4650f9c8273d20d7230c5830baa6096d9035861108, 0x4650f9c8273d20d7230c5830baa6096d9035861108]

/-- What states 384 to 415 do with a token. -/
def moves12 : List Nat :=
  [0x5b00262aa002532a8023126002206d0021225805409e001f0bb005f1d78009096800834f800500030012a980351d900032a9002a2c3000210087c,
   0x5b00262aa002532a8023126002206d0021226805409e001f0bb005f1d78009096800834f800500030012a980351d900032a9002a2c3000210087c,
   0x5b00262aa002532a8023126002206d00212a2805409e001f0bb005f1d78009096800834f800500030012a980351d900032a9002a2c3000210087c,
   0x5b00262aa002532a8023126002206d00212a3805409e001f0bb005f1d78009096800834f800500030012a980351d900032a9002a2c3000210087c,
   0x5b00262aa002532a8023126002206d0021261805409e001f0bb005f1d78009096800834f800500030012a980351d900032a9002a2c3000210087c,
   0x5b00262aa002532a8023126002206d0021263805409e001f0bb005f1d78009096800834f800500030012a980351d900032a9002a2c3000210087c,
   0x5b00262aa002532a8023126002206d0021200005409e001f0bb005f1d78009096800834f800500030012a980351d900032a9002a2c3000210087c,
   0x5b00262aa002532a8023126002206d0021201005409e001f0bb005f1d78009096800834f800500030012a980351d900032a9002a2c3000210087c,
   0x5b00262aa002532a8023126002206d0021272805409e001f0bb005f1d78009096800834f800500030012a980351d900032a9002a2c3000210087c,
   0x5b00262aa002532a8023126002206d0021273805409e001f0bb005f1d78009096800834f800500030012a980351d900032a9002a2c3000210087c,
   0x5b00262aa002532a8023126002206d00212b6805409e001f0bb005f1d78009096800834f800500030012a980351d900032a9002a2c3000210087c,
   0x5b00262aa002532a8023126002206d00212b7805409e001f0bb005f1d78009096800834f800500030012a980351d900032a9002a2c3000210087c,
   0x5b00262aa002532a8023126002206d00212d0805409e001f0bb005f1d78009096800834f800500030012a980351d900032a9002a2c3000210087c,
   0x5b00262aa002532a8023126002206d00212d1805409e001f0bb005f1d78009096800834f800500030012a980351d900032a9002a2c3000210087c,
   0x5b00262aa002532a8023126002206d00212d6805409e001f0bb005f1d78009096800834f800500030012a980351d900032a9002a2c3000210087c,
   0x5b00262aa002532a8023126002206d00212d7805409e001f0bb005f1d78009096800834f800500030012a980351d900032a9002a2c3000210087c,
   0x52002623c0025328002311f80220658021089001f1d0800907580083438005000300123b80351d3000323b002a29180020e027c,
   0x52002623c0025328002311f80220658021089001f1d0800907580083438005000300123b80351d3000323b002a29180020e027c,
   0x58002606580213438005089001f1d080090888008000300129300350021061292802a1d300032918039002903b0d0289,
   0x4e80261eb002532200230ed8022060002108c801f1d2800908c0008339000500030011ea803500b905d1ad00031ea002a20480020f047c,
   0x5b00262aa002532a8023126002206d002109e001f0bb005f1d78009096800834f800500030012a980351d900032a9002a2c300020f027c,
   0x4e80261eb002532200230ed8022060002108c801f1d2800908c0008339000500030011ea803500c105d1ad00031ea002a20480020f047c,
   0x4e80261eb002532200230ed8022060002108c801f1d2800908c0008339000500030011ea803500c905d1ad00031ea002a20480020f047c,
   0x52002623c0025328002311f80220658021089001f1d080090888008343800500d105f000300123b80351d3000323b002a29180020f027c,
   0x58002606580213438005089001f1d0800908880080003001293003500b102b292802a1d300032918039002903b0d0296,
   0x4e80261eb002532200230ed8022060002108c801f1d2800908c0008339000500030011ea803500d905d1ad00031ea002a20480020f047c,
   0x4e80261eb002532200230ed8022060002108c801f1d2800908c0008339000500030011ea803500e105d1ad00031ea002a20480020f047c,
   0x4e80261eb002532200230ed8022060002108c801f1d2800908c0008339000500030011ea803500e905d1ad00031ea002a20480020f047c,
   0x540026255802532a0023125802206b8021093801f1d5800951e005508f800834d8005000300125500351d80003254802a2a780020f077c,
   0x52002623c0025328002311f80220658021089001f1d080090888008343800500f105f000300123b80351d3000323b002a29180020f027c,
   0x5b00262aa002532a8023126002206d002109e001f1d78009096800834f800500030012a9803500a904f1d900032a9002a2c300020f087c,
   0x5880262458025326802311b00220638021097001f1d6800909300083418005000300124500351d10003244802a28080020e027c]

/-- Where states 384 to 415 go after a phrase. -/
def gotos12 : List Nat :=
  [0x4650f9c8273d20d7230c5830baa6096d9035861108, 0x4650f9c8273d20d7230c5830baa6096d9035861108,
   0x4650f9c8273d20d7230c5830baa6096d9035861108, 0x4650f9c8273d20d7230c5830baa6096d9035861108,
   0x4650f9c8273d20d7230c5830baa6096d9035861108, 0x4650f9c8273d20d7230c5830baa6096d9035861108,
   0x4650f9c8273d20d7230c5830baa6096d9035861108, 0x4650f9c8273d20d7230c5830baa6096d9035861108,
   0x4650f9c8273d20d7230c5830baa6096d9035861108, 0x4650f9c8273d20d7230c5830baa6096d9035861108,
   0x4650f9c8273d20d7230c5830baa6096d9035861108, 0x4650f9c8273d20d7230c5830baa6096d9035861108,
   0x4650f9c8273d20d7230c5830baa6096d9035861108, 0x4650f9c8273d20d7230c5830baa6096d9035861108,
   0x4650f9c8273d20d7230c5830baa6096d9035861108, 0x4650f9c8273d20d7230c5830baa6096d9035861108,
   0x3db0f3bd0d7480c4fe0b8b122a1528a5b096aa035231109,
   0x3db0f3bd0d7480c4fe0b8b122a2628a5b096aa035231109, 0x3db0f43d0d4fe0b5231104,
   0x3b90f3580d6ed0c4240ba0e09661034091107, 0x4650f8c8273d20d6ee0c5830baa6096d9035861108,
   0x3b90f3580d71c0c4240ba0e09661034091107, 0x3b90f3580d71c0c4240ba0e09661034091107,
   0x3db0f3bd0d7480c4fe0b9bd22a5b096aa035231108, 0x3db0f43d0d4fe0b5231104,
   0x3b90f3580d6ed0c4240ba0e09661034091107, 0x3b90f3580d71c0c4240ba0e09661034091107,
   0x3b90f3580d71c0c4240ba0e09661034091107, 0x4040f3be0d7760c53e0b9e722a9a096b50354f1108,
   0x3db0f3bd0d7480c4fe0b9bd22a5b096aa035231108, 0x4650f3d20d75f0c5830baa6096d9035861107,
   0x3d80f3bc0d6f20c5480ba4409763256f6035011108]

/-- What states 416 to 447 do with a token. -/
def moves13 : List Nat :=
  [0x540026255802532a0023125802206b8021093801f1d5800951f005508f800834d8005000300125500351d80003254802a2a780020f077c,
   0x5b00262aa002532a8023126002206d002109e001f1d78009096800834f800500030012a9803500f904f1d900032a9002a2c300020f087c,
   0x5880262458025326802311b00220638021097001f1d6800909300083418005000300124500351d10003244802a28080020e027c,
   0x5b00262aa002532a8023126002206d002109e001f1d78009096800834f800500030012a98035010104f1d900032a9002a2c300020f087c,
   0x5b00262aa002532a8023126002206d002109e001f0bb005f1d78009096800834f800500030012a980351d900032a9002a2c300020f027c,
   0x5880262458025326802311b00220638021097001f1d6800909300083418005000300124500351d10003244802a28080020e027c,
   0x5880262458025326802311b00220638021097001f1d6800909300083418005000300124500351d10003244802a28080020e027c,
   0x5880262458025326802311b00220638021097001f1d6800909300083418005000300124500351d10003244802a28080020e027c,
   0x58002606580213438005089001f1d08009088800800030012930035002104d292802a1d300032918039002903b0d0789,
   0x540026255802532a0023125802206b8021093801f1d5800908f800834d800500030012550035008104d1d80003254802a2a780020f077c,
   0x540026255802532a0023125802206b8021093801f1d5800908f800834d800500030012550035008904d1d80003254802a2a780020f077c,
   0x58002606580213438005089001f1d08009088800800030012930035003102b292802a1d300032918039002903b0d0296,
   0x58002606580213438005089001f1d08009088800800030012930035002104f292802a1d300032918039002903b0d0889,
   0x5b00262aa002532a8023126002206d002109e001f1d78009096800834f800500030012a98035008104f1d900032a9002a2c300020f087c,
   0x5b00262aa002532a8023126002206d002109e001f1d78009096800834f800500030012a98035008904f1d900032a9002a2c300020f087c,
   0x55002622b802532b00231220022067002109a801f1d8800909a00083478005000300122b00351d4800322a802a24400020e027c,
   0x55002622b802532b00231220022067002109a801f1d8800909a00083478005000300122b00351d4800322a802a24400020e027c,
   0x55002622b802532b00231220022067002109a801f1d8800909a00083478005000300122b00351d4800322a802a24400020e027c,
   0x55002622b802532b00231220022067002109a801f1d8800909a00083478005000300122b00351d4800322a802a24400020e027c,
   0x55002622b802532b00231220022067002109a801f1d8800909a00083478005000300122b00351d4800322a802a24400020e027c,
   0x53002621d802532b802312380220688021090001f1d980090a080083498005000300121d00351d6000321c802a25100020e027c,
   0x53002621d802532b802312380220688021090001f1d980090a080083498005000300121d00351d6000321c802a25100020e027c,
   0x53002621d802532b802312380220688021090001f1d980090a080083498005000300121d00351d6000321c802a25100020e027c,
   0x53002621d802532b802312380220688021090001f1d980090a080083498005000300121d00351d6000321c802a25100020e027c,
   0x53002621d802532b802312380220688021090001f1d980090a080083498005000300121d00351d6000321c802a25100020e027c,
   0x5b00262aa002532a8023126002206d002109e001f0bb005f1d78009096800834f800500030012a980351d900032a9002a2c300020f027c,
   0x5b00262aa002532a8023126002206d002109e001f0bb005f1d78009096800834f800500030012a980351d900032a9002a2c300020f027c,
   0x5b00262aa002532a8023126002206d002109e001f0bb005f1d78009096800834f800500030012a980351d900032a9002a2c300020f027c,
   0x5b00262aa002532a8023126002206d002109e001f0bb005f1d78009096800834f800500030012a980351d900032a9002a2c300020f027c,
   0x5b00262aa002532a8023126002206d002109e001f0bb005f1d78009096800834f800500030012a980351d900032a9002a2c300020f027c,
   0x5b00262aa002532a8023126002206d002109e001f0bb005f1d78009096800834f800500030012a980351d900032a9002a2c300020f027c,
   0x5b00262aa002532a8023126002206d002109e001f0bb005f1d78009096800834f800500030012a980351d900032a9002a2c300020f027c]

/-- Where states 416 to 447 go after a phrase. -/
def gotos13 : List Nat :=
  [0x4040f3be0d7760c53e0b9e722a9a096b50354f1108, 0x4650f3d20d7690c5830baa6096d9035861107,
   0x3d80f3bc0d6f20c5480ba440976b256f6035011108, 0x4650f3d20d7700c5830baa6096d9035861107,
   0x4650f9c8273d20d7230c5830baa6096d9035861108, 0x3d80f3bc0d6f40c5480ba44097d9256f6035011108,
   0x3d80f3bc0d6f50c5480ba44097e1256f6035011108, 0x3d80f3bc0d6f20c5480ba44097da256f6035011108,
   0x3db0f43d0d4fe0b5231104, 0x4040f3be0d7950c53e0ba9a096b50354f1107,
   0x4040f3be0d7950c53e0ba9a096b50354f1107, 0x3db0f43d0d4fe0b5231104, 0x3db0f43d0d4fe0b5231104,
   0x4650f3d20d7a40c5830baa6096d9035861107, 0x4650f3d20d7a40c5830baa6096d9035861107,
   0x3c90f3760d7000c4ca0ba6d097892567a034881108, 0x3c90f3760d7000c4ca0ba6d0978d2567a034881108,
   0x3c90f3760d7020c4ca0ba6d097f42567a034881108, 0x3c90f3760d7030c4ca0ba6d097f92567a034881108,
   0x3c90f3760d7000c4ca0ba6d097f52567a034881108, 0x3cc0f37f0d7040c4820ba7f09798256c7034a21108,
   0x3cc0f37f0d7040c4820ba7f0979a256c7034a21108, 0x3cc0f37f0d7060c4820ba7f09807256c7034a21108,
   0x3cc0f37f0d7070c4820ba7f0980c256c7034a21108, 0x3cc0f37f0d7040c4820ba7f09808256c7034a21108,
   0x4650f934273d20d70b0c5830baa6096d9035861108, 0x4650f94b273d20d70d0c5830baa6096d9035861108,
   0x4650f95d273d20d70e0c5830baa6096d9035861108, 0x4650f96f273d20d70f0c5830baa6096d9035861108,
   0x4650f97a273d20d7100c5830baa6096d9035861108, 0x4650f985273d20d7110c5830baa6096d9035861108,
   0x4650f990273d20d7120c5830baa6096d9035861108]

/-- What states 448 to 479 do with a token. -/
def moves14 : List Nat :=
  [0x5b00262aa002532a8023126002206d002109e001f0bb005f1d78009096800834f800500030012a980351d900032a9002a2c300020f027c,
   0x5b00262aa002532a8023126002206d002109e001f0bb005f1d78009096800834f800500030012a980351d900032a9002a2c300020f027c,
   0x52002623c0025328002311f80220658021089001f1d0800907580083438005000300123b80351d3000323b002a29180020e027c,
   0x52002623c0025328002311f80220658021089001f1d0800907580083438005000300123b80351d3000323b002a29180020e027c,
   0x4e80261eb002532200230ed8022060002108c801f1d2800908c0008339000500030011ea80351ad00031ea002a20480020e027c,
   0x50980190c880181678015016d031001902d0003001002103000290620809a6,
   0x45900253458005016d031001902d0003001002103000290620704a6,
   0x52002623c0025328002311f80220658021089001f467005f1d0800908880083438005000300123b80351d3000323b002a29180020f027c,
   0x52002623c0025328002311f80220658021089001f1d0800908880083438005000300123b80351d3000323b002a29180020e027c,
   0x52002623c0025328002311f80220658021089001f46f005f1d0800908880083438005000300123b80351d3000323b002a29180020f027c,
   0x52002623c0025328002311f80220658021089001f1d0800908880083438005000300123b80351d3000323b002a29180020e027c,
   0x52002623c0025328002311f80220658021089001f031005f1d0800908880083438005000300123b80351d3000323b002a29180020f027c,
   0x52002623c0025328002311f80220658021089001f1d0800908880083438005000300123b80351d3000323b002a29180020e027c,
   0x45900253458005001902d0003001016d02b002102900290620704a6,
   0x52002623c0025328002311f80220658021089001f1d0800908880083438005008105f000300123b80351d3000323b002a29180020f027c,
   0x52002623c0025328002311f80220658021089001f1d0800908880083438005008905f000300123b80351d3000323b002a29180020f027c,
   0x52002623c0025328002311f80220658021089001f486005f1d0800908880083438005000300123b80351d3000323b002a29180020f027c,
   0x540026255802532a0023125802206b8021093801f1d5800908f800834d8005000300125500351d80003254802a2a780020e027c,
   0x52002623c0025328002311f80220658021089001f49b005f1d0800908880083438005000300123b80351d3000323b002a29180020f027c,
   0x52002623c0025328002311f80220658021089001f03e805f1d0800908880083438005000300123b80351d3000323b002a29180020f027c,
   0x52002623c0025328002311f80220658021089001f1d0800908880083438005000300123b80351d3000323b002a29180020e027c,
   0x52002623c0025328002311f80220658021089001f1d0800908880083438005000300123b80351d3000323b002a29180020e027c,
   0x56280190e180181a38015016d031001902d0003001002103000290620809a6,
   0x4e80261eb002532200230ed8022060002108c801f1d2800908c0008339000500030011ea80351ad00031ea002a20480020e027c,
   0x52002623c0025328002311f80220658021089001f1d0800908880083438005000300123b80351d3000323b002a29180020e027c,
   0x52002623c0025328002311f80220658021089001f1d0800908880083438005000300123b80351d3000323b002a29180020e027c,
   0x4e80261eb002532200230ed8022060002108c801f1d2800908c0008339000500030011ea80351ad00031ea002a20480020e027c,
   0x4e80261eb002532200230ed8022060002108c801f1d2800908c0008339000500030011ea80351ad00031ea002a20480020e027c,
   0x560026238802532a0023125802206b8021093801f1d5800908f800834d8005000300123800351d80003237802a2a780020e027c,
   0x4e80261eb002532200230ed8022060002108c801f1d2800908c0008339000500030011ea80351ad00031ea002a20480020e027c,
   0x4e80261eb002532200230ed8022060002108c801f1d2800908c0008339000500030011ea80351ad00031ea002a20480020e027c,
   0x51002623400253298023124802206a00210a1001f1d4000909d800834b8005000300123380351d70003233002a26400020e027c]

/-- Where states 448 to 479 go after a phrase. -/
def gotos14 : List Nat :=
  [0x4650f994273d20d7130c5830baa6096d9035861108, 0x4650f996273d20d7140c5830baa6096d9035861108,
   0x3db0f3bd0d7480c4fe0b8b122ab428a5b096aa035231109,
   0x3db0f3bd0d7480c4fe0b8b122ab528a5b096aa035231109,
   0x3b90f3580d6e80c4240b9a924a0e09661034091108, 0x0, 0x8b20f01,
   0x3db0f3bd0d7540c4fe0ba5b096aa035231107, 0x3db0f3bd0d71d0c4fe0ba3024a5b096aa035231108,
   0x3db0f3bd0d7540c4fe0ba5b096aa035231107, 0x3db0f3bd0d7220c4fe0ba3b24a5b096aa035231108,
   0x3db0f3bd0d75a0c4fe0ba5b096aa035231107, 0x3db0f3bd0d7480c4fe0b9bd22a5b096aa035231108,
   0x8b20f01, 0x3db0f3bd0d7ae0c4fe0ba5b096aa035231107, 0x3db0f3bd0d7ae0c4fe0ba5b096aa035231107,
   0x3db0f3bd0d7540c4fe0ba5b096aa035231107, 0x4040f3be0d7760c53e0b9e722a9a096b50354f1108,
   0x3db0f3bd0d7540c4fe0ba5b096aa035231107, 0x3db0f3bd0d7b30c4fe0ba5b096aa035231107,
   0x3db0f3bd0d7450c4fe0bab824a5b096aa035231108, 0x3db0f3bd0d7460c4fe0babd24a5b096aa035231108,
   0x0, 0x3b90f3580d6e60c4240ba0e09661034091107, 0x3db0f3bd0d7b50c4fe0ba5b096aa035231107,
   0x3db0f3bd0d7b60c4fe0ba5b096aa035231107, 0x3b90f3580d7b90c4240ba0e09661034091107,
   0x3b90f3580d6630c4240ba0e09661034091107, 0x4040f4030d74b0c53e0ba9a09507076b50354f0108,
   0x3b90f3580d71a0c4240ba0e09661034091107, 0x3b90f3580d74c0c4240ba0e09661034091107,
   0x3cf0f3880d74d0c4ea0ba8e096d0034c81107]

end CellScript.Python.Grammar
