set_option autoImplicit false

/-! # The token automaton

Rows of the automaton that reads tokens: one number per state, with a three digit field per class of
characters. `Token.Scan` says how they are read. -/

namespace CellScript.Python.Grammar

/-- The class of each character below 128, two digits per character. -/
def asciiClasses : Nat :=
  0x1494847463d4544434241403f3e3d3c3b3a393837363534333231302f2e2d012c2b2a292820202720202625202020202423202220212020201f1e1c1c1d1c1b011a191817161515141414141414131211100f0e0d0c0b0a06090801070605020101010101010101010101010101010101010402020302010101010101010100

/-- The words that are tokens of their own where the grammar expects them. -/
def keywords : List (String × Nat) :=
  [("import", 3), ("from", 5), ("__future__", 6), ("as", 10), ("print", 12), ("assert", 14),
   ("return", 16), ("del", 17), ("raise", 18), ("pass", 19), ("break", 20), ("continue", 21),
   ("if", 22), ("elif", 24), ("else", 25), ("match", 26), ("case", 27), ("async", 28),
   ("for", 29), ("in", 30), ("while", 31), ("try", 32), ("finally", 35), ("with", 36),
   ("def", 37), ("global", 40), ("nonlocal", 41), ("exec", 42), ("type", 43), ("class", 45),
   ("_", 50), ("not", 55), ("and", 56), ("or", 57), ("is", 65), ("lambda", 73), ("yield", 87),
   ("await", 95), ("True", 96), ("False", 97), ("None", 98)]

/-- The sets of layout tokens that a state may expect, one bit per layout token. -/
def layoutSets : List Nat :=
  [0x0, 0xfff, 0x88, 0x8c, 0x89, 0x8b, 0x488, 0x288, 0x188, 0x81, 0x888, 0x88c, 0x180, 0x480,
   0x280, 0x80, 0xf0, 0x880, 0x84, 0x83]

/-- Entries 0 to 15 of `tokenRows`. -/
def tokenRows0 : List Nat :=
  [0x3602802402604004004004004004004004004004004004004004004004004004004004001804004004004004003202003a01e04004004004004004004004004004004004002201401c03400601603e03e03e03c02c00a01a01002a01200e00c03002e042000038009009009000000000100,
   0x101, 0x303,
   0x3602802402604004004004004004004004004004004004004004004004004004004004001804004004004004003202004401e04004004004004004004004004004004004002201401c03400601603e03e03e03c02c00a01a01002a01200e00c03002e042000038009009009000000000100,
   0x48048048048000046000000000000000000000000000000000000000000000000000505, 0x808, 0x909, 0xa0a,
   0x4c00000000000000000000000000000000000004a000000000000000000000000000000000000000c0c,
   0x4e050000000000000000000000000000000000000000000000000000000000000000000000000000004848,
   0x52000000000000000000000000000000000000000000000000000000000000000000000000000001818,
   0x40000000000000040054040040040040040040040040040040040040040040040040040040040040040040040040000000000000040040040040040040040040040040040040000000000000000000040040040040000000000000000000000000000000000000000000000000000000000202,
   0x56058000000000000000000000000000000000000000000000000000000000000000000000000000003232,
   0x5a000000000000000000000000000000000000000000000000000000000000000000000000000002d2d, 0x2f2f,
   0x3030]

/-- Entries 16 to 31 of `tokenRows`. -/
def tokenRows1 : List Nat :=
  [0x5c000000000000000000000000000000000000000000000000000000000000000000000000000003131,
   0x5e000000000000000000000000000000000000000000000000000000000000000000000000000003434, 0x3535,
   0x3636, 0x60000000000000000000000000000000000000000000000000000000000000000000000000000003737,
   0x64000000000000000000000062000000000000000000000000000000000000000000000000000003b3b,
   0x66000000000000000000000000000000000000000000000000000000000000000000000000000003c3c,
   0x68000000000000000000000000000000000000000000000000000000000000000000000000000003e3e,
   0x6a000000000000000000000000000000000000000000000000000000000000000000000000000003f3f,
   0x7006e06c000000000000000000000000000000000000000000000000000000000000000000000000004343,
   0x4141,
   0x74074074074074074074074074074074074074074074074074074074074074074074074074000000000000000000000000000000000000000000000000000000000072000000000000000000000000000000000000000000000000000000000000000000000000000000000,
   0x7a00008207608200008200000000008200000000000000000000008200000000008208200000000008200000007800000008400000000000000000000000000000000000000007c07c07c07c00000000000000000000000000000000008200008007e00000008600655b,
   0x8800000000000000000000000008a00000008e00008e00000000000009400000008c00009000000000000008800000008a00008e08e00000009408c00000000000000000000003e03e03e03e000092000000000000000000000000000000000000000000000000005e5e,
   0x8e00008e00000000000009400000000000009000000000000000000000000000008e08e00000009400000000000000000000000003e03e03e03e000092000000000000000000000000000000000000000000000000005e5e,
   0x40000000000000040040040040040040040040040040040040040040040040040040040040040040040040040040000000000000040040040040040040040040040040040040000000000000000000040040040040000000000000000000000000000000000000000000000000000000000202]

/-- Entries 32 to 47 of `tokenRows`. -/
def tokenRows2 : List Nat :=
  [0x42042042042042042042042042042042042042042042042042042042042042042042042042042042042042042042042042042042042042042042042042042042042042042042042042042042042042042042042042042042042042042042042042042042042042042042000042042000006464,
   0x96086000000086006500, 0x98000000000000000000000000000000000000000000000000000000,
   0x9a00000000000009c00000000000009e00000000000000000000000000000009a00000009c000000000000000000000000048048048048000000000000000000000000000000000000000000000000000000005f5f,
   0xa0000000000000000000000000000000000000000000000000000000000000000000000000000002828, 0x4d4d,
   0xa2000000000000000000000000000000000000000000000000000000000000000000000000000000e0e, 0x4747,
   0x1010,
   0x400000000000000400400400400400400400400400400400400400400400400400400400400400400a4040040040000000000000040040040040040040040040040040040040000000000000000000040040040040000000000000000000000000000000000000000000000000000000000202,
   0x2727, 0x4c4c, 0x4545, 0x4f4f, 0x5757, 0x4b4b]

/-- Entries 48 to 63 of `tokenRows`. -/
def tokenRows3 : List Nat :=
  [0xa6000000000000000000000000000000000000000000000000000000000000000000000000000003d3d, 0x4e4e,
   0x5151, 0x5555, 0x5656,
   0xa8000000000000000000000000000000000000000000000000000000000000000000000000000004040, 0x4444,
   0x4949, 0x4646, 0x5d5d,
   0xaa0aa0aa0aa0aa0aa0000000000000000000000000000000000000000aa0aa0aa0aa0000000000000000000aa0aa0aa0aa000000000000000000000000000000000000000000000000000000000000,
   0xac0ac0ac0ac0ac0ac0000000000000000000000000000000000000000ac0ac0ac0ac0000000000000000000ac0ac0ac0ac000000000000000000000000000000000000000000000000000000000000,
   0xae0ae0ae0ae0ae0ae0000000000000000000000000000000000000000ae0ae0ae0ae0000000000000000000ae0ae0ae0ae000000000000000000000000000000000000000000000000000000000000,
   0xb00b00b00b0000000000000000000000000000000000000000000000000000000005a5a, 0x5a5a,
   0x7e000000000000000]

/-- Entries 64 to 79 of `tokenRows`. -/
def tokenRows4 : List Nat :=
  [0x5a5a,
   0xb2000000000000000000000000000000000000000000000000000000000000000000000000000000000000000000000000000000000000000000000000000000000000000000000000000000000000000000000000000000000000000000000000000000000000000000000000,
   0x6565,
   0xb40b40b40b40b40b40b60000000000000000000000000000000000000b40b40b40b40000000000000000000b40b40b40b4000000000000000000000000000000000000000000000000000000000000,
   0xba0000000000000000000000000000000000000000000000000000000000000000000000b80b80b8000000000000000000000000000000000000000000000000000000000000,
   0xbe0000000000000000000000000000000000000000000000000000000000000000000000000bc0bc000000000000000000000000000000000000000000000000000000000000,
   0x5e5e,
   0x8e00008e00000000000009400000000000000000000000000000000000000000008e08e00000009400000000000000000000000003e03e03e03e000092000000000000000000000000000000000000000000000000005e5e,
   0x9a0000000000000c000000000000000000000000000000000000000000000009a0000000c00000000000000000000000000c20c20c20c2000000000000000000000000000000000000000000000000000000005f5f,
   0xc40c40c40c40000000c60000c6000000000000000000000000000000000000000000000, 0x86000000000000000,
   0x5959, 0x5f5f, 0xc80c80c80c80000000ca0000ca000000000000000000000000000000000000000000000,
   0x9a00000000000009c00000000000000000000000000000000000000000000009a00000009c000000000000000000000000048048048048000000000000000000000000000000000000000000000000000000005f5f,
   0x5252]

/-- Entries 80 to 95 of `tokenRows`. -/
def tokenRows5 : List Nat :=
  [0x5353,
   0x400000000000000400400400400400400400400400400400400400400400400400400400400cc040040040040040000000000000040040040040040040040040040040040040000000000000000000040040040040000000000000000000000000000000000000000000000000000000000202,
   0x5050, 0x5454,
   0xce0ce0ce0ce0ce0ce0000000000000000000000000000000000000000ce0ce0ce0ce0000000000000000000ce0ce0ce0ce000000000000000000000000000000000000000000000000000000000000,
   0xd00d00d00d00d00d00000000000000000000000000000000000000000d00d00d00d00000000000000000000d00d00d00d0000000000000000000000000000000000000000000000000000000000000,
   0x82082082082082082000000000000000000000000000000000000000082082082082000000000000000000082082082082000000000000000000000000000000000000000000000000000000000000,
   0x82082082082000000000000000000000000000000000000000000000000000000005a5a,
   0xd20d20000d20d20d20d20d20d20d20d20d20d20d20d20d20d20d20d20d20d20d20d20d20d20d20d20d20d20d20d20d20d20d20d20d20d20d20d20d20d20d20d20d20d20d20d20d20d20d20d20d20d20d20d20d20d20d20d20d20d20d20d20d20d20d20d20d20d20d20d20d20d20d2000000000,
   0x8e0000000000000000b40b40b40b40b40b40b600000000000000000000000000008e0000000b40b40b40b40000000000000000000b40b40b40b4000000000000000000000000000000000000000000000000000000005e5e,
   0xb40b40b40b40b40b40000000000000000000000000000000000000000b40b40b40b40000000000000000000b40b40b40b4000000000000000000000000000000000000000000000000000000000000,
   0x8e0000000000000000000000000000000000ba00000000000000000000000000008e0000000000000000000000000000000000000000b80b80b8000000000000000000000000000000000000000000000000000000005e5e,
   0xb80b80b8000000000000000000000000000000000000000000000000000000000000,
   0x8e0000000000000000000000000000000000be00000000000000000000000000008e0000000000000000000000000000000000000000000bc0bc000000000000000000000000000000000000000000000000000000005e5e,
   0xbc0bc000000000000000000000000000000000000000000000000000000000000,
   0xd40d40d40d40000000d60000d6000000000000000000000000000000000000000000000]

/-- Entries 96 to 111 of `tokenRows`. -/
def tokenRows6 : List Nat :=
  [0x9a0000000000000d80000000000000da00000000000000000000000000000009a0000000d80000000000000000000000000c20c20c20c2000000000000000000000000000000000000000000000000000000005f5f,
   0x9a0000000000000000000000000000dc00000000000000000000000000000009a0000000000000000000000000000000000c40c40c40c4000000000000000000000000000000000000000000000000000000005f5f,
   0xc40c40c40c4000000000000000000000000000000000000000000000000000000000000,
   0x9a0000000000000000000000000000de00000000000000000000000000000009a0000000000000000000000000000000000c80c80c80c8000000000000000000000000000000000000000000000000000000005f5f,
   0xc80c80c80c8000000000000000000000000000000000000000000000000000000000000,
   0x400000000000000400400400400400400400400400e0040040040040040040040040040040040040040040040040000000000000040040040040040040040040040040040040000000000000000000040040040040000000000000000000000000000000000000000000000000000000000202,
   0xe20e20e20e20e20e20000000000000000000000000000000000000000e20e20e20e20000000000000000000e20e20e20e2000000000000000000000000000000000000000000000000000000000000,
   0xe40e40e40e40e40e40000000000000000000000000000000000000000e40e40e40e40000000000000000000e40e40e40e4000000000000000000000000000000000000000000000000000000000000,
   0xd20d20820d20d20d20d20d20d20d20d20d20d20d20d20d20d20d20d20d20d20d20d20d20d20d20d20d20d20d20d20d20d20d20d20d20d20d20d20d20d20d20d20d20d20d20d20d20d20d20d20d20d20d20d20d20d20d20d20d20d20d20d20d20d20d20d20d20d20d20d20d20d20d2000000000,
   0x9a0000000000000000000000000000e600000000000000000000000000000009a0000000000000000000000000000000000d40d40d40d4000000000000000000000000000000000000000000000000000000005f5f,
   0xd40d40d40d4000000000000000000000000000000000000000000000000000000000000,
   0xe80e80e80e80000000ea0000ea000000000000000000000000000000000000000000000,
   0x9a0000000000000d800000000000000000000000000000000000000000000009a0000000d80000000000000000000000000c20c20c20c2000000000000000000000000000000000000000000000000000000005f5f,
   0x9a00000000000000000000000000000000000000000000000000000000000009a0000000000000000000000000000000000c40c40c40c4000000000000000000000000000000000000000000000000000000005f5f,
   0x9a00000000000000000000000000000000000000000000000000000000000009a0000000000000000000000000000000000c80c80c80c8000000000000000000000000000000000000000000000000000000005f5f,
   0x400000000000000400400400400400ec040040040040040040040040040040040040040040040040040040040040000000000000040040040040040040040040040040040040000000000000000000040040040040000000000000000000000000000000000000000000000000000000000202]

/-- Entries 112 to 127 of `tokenRows`. -/
def tokenRows7 : List Nat :=
  [0x82082082082082082000000000000000000000000000000000000000082082082082000000000000000000082082082082000000000000000000000000000000000000000000000000000000000000,
   0xee0ee0ee0ee0ee0ee0000000000000000000000000000000000000000ee0ee0ee0ee0000000000000000000ee0ee0ee0ee000000000000000000000000000000000000000000000000000000000000,
   0x9a00000000000000000000000000000000000000000000000000000000000009a0000000000000000000000000000000000d40d40d40d4000000000000000000000000000000000000000000000000000000005f5f,
   0x9a0000000000000000000000000000f000000000000000000000000000000009a0000000000000000000000000000000000e80e80e80e8000000000000000000000000000000000000000000000000000000005f5f,
   0xe80e80e80e8000000000000000000000000000000000000000000000000000000000000,
   0x400000000000000400400400400400400400400400400400400400400400400400400400400400400400400400400000000000000400400400400400400400400400400400400000000000000000000400400400400000000000000000f2000000000000000000000000000000000000002222,
   0xf40f40f40f40f40f40000000000000000000000000000000000000000f40f40f40f40000000000000000000f40f40f40f4000000000000000000000000000000000000000000000000000000000000,
   0x9a00000000000000000000000000000000000000000000000000000000000009a0000000000000000000000000000000000e80e80e80e8000000000000000000000000000000000000000000000000000000005f5f,
   0x2323,
   0xf60f60f60f60f60f60000000000000000000000000000000000000000f60f60f60f60000000000000000000f60f60f60f6000000000000000000000000000000000000000000000000000000000000,
   0xf80f80f80f80f80f80000000000000000000000000000000000000000f80f80f80f80000000000000000000f80f80f80f8000000000000000000000000000000000000000000000000000000000000,
   0x82082082082082082000000000000000000000000000000000000000082082082082000000000000000000082082082082000000000000000000000000000000000000000000000000000000000000,
   0x3602810402604004004004004004004004004004004004004004004004004004004004004004004004004004000002004401e04004004004004004004004004004004004010010a01c1080060fe03e03e03e03c00010c1020101060fc00e00c0000000420000380fb0fb0fb000000000100,
   0xc0c, 0x1818, 0x3131]

/-- Entries 128 to 143 of `tokenRows`. -/
def tokenRows8 : List Nat :=
  [0x3232, 0x3434, 0x3737,
   0x7006e000000000000000000000000000000000000000000000000000000000000000000000000000004343,
   0x50000000000000000000000000000000000000000000000000000000000000000000000000000004848,
   0x48048048048000046000000000000000000000000000000000000000000000000000000,
   0x3600002402604004004004004004004004004004004004004004004004004004004004004004004004004004003200004401e04004004004004004004004004004004004002201401c03400601603e03e03e03c02c00a11001002a01200000c03002e04200011210f10f10f000000000000,
   0x58000000000000000000000000000000000000000000000000000000000000000000000000000003232,
   0x72000000000000000000000000000000000000000000000000000000000000000000000000000000000,
   0x3602810402604004004004004004004004004004004004004004004004004004004004004004004004004004012002004401e04004004004004004004004004004004004010011801c12200601603e03e03e03c11a00a10201010611600e00c11e11c042000038115115115000000000000,
   0x124000000000000000000000000000000000000000c0c,
   0x126050000000000000000000000000000000000000000000000000000000000000000000000000000004848,
   0x128000000000000000000000000000000000000000000000000000003b3b, 0x3c3c, 0x3e3e, 0x3f3f]

/-- Entries 144 to 159 of `tokenRows`. -/
def tokenRows9 : List Nat :=
  [0x7006e12a000000000000000000000000000000000000000000000000000000000000000000000000004343,
   0x2828, 0xe0e, 0x3d3d, 0x4040,
   0x3600002402604004004004004004004004004004004004004004004004004004004004004004004004004004003200004401e04004004004004004004004004004004004002201401c0340060fe03e03e03e03c02c00a11001002a01200000c03002e04200011212d12d12d000000000000,
   0x3602810402604004004004004004004004004004004004004004004004004004004004004004004004004004012002004401e04004004004004004004004004004004004010011801c1220060fe03e03e03e03c11a00a10201010611600e00c11e11c04200003812f12f12f000000000000,
   0x3600014402604004004004004004004004004004004004004004004004004004004004004004004004004004014200004401e04004004004004004004004004004004004013813c13413e0060fe03e03e03e03c13610c11000002a13200000c14013a042000000131131131000000000000,
   0x4c000000000000000000000000000000000000146000000000000000000000000000000000000000c0c, 0x2d2d,
   0x64000000000000000000000148000000000000000000000000000000000000000000000000000000000,
   0x5c000000000000000000000000000000000000000000000000000000000000000000000000000000000,
   0x66000000000000000000000000000000000000000000000000000000000000000000000000000000000,
   0x14a000000000000000000000000000000000000000000000000000000000000000000000000000000000000,
   0x14c000000000000000000000000000000000000000000000000000000000000000000000000000000,
   0x68000000000000000000000000000000000000000000000000000000000000000000000000000000000]

/-- Entries 160 to 175 of `tokenRows`. -/
def tokenRows10 : List Nat :=
  [0x6a000000000000000000000000000000000000000000000000000000000000000000000000000000000,
   0x5e000000000000000000000000000000000000000000000000000000000000000000000000000000000,
   0xa0000000000000000000000000000000000000000000000000000000000000000000000000000000000,
   0xa6000000000000000000000000000000000000000000000000000000000000000000000000000000000,
   0xa2000000000000000000000000000000000000000000000000000000000000000000000000000000000,
   0xa8000000000000000000000000000000000000000000000000000000000000000000000000000000000,
   0x2802400004004004004004004004004004004004004004004004004004004004004004004004004004004003202004401e04004004004004004004004004004004004002201401c03400601600000000000002c15011001002a01200e00c03002e04200011214f14f14f000000000000,
   0x505,
   0x3600000002604004004004004004004004004004004004004004004004004004004004015404004004004004000000004401e04004004004004004004004004004004004010000000000000000003e03e03e03c00010c1020001060fc00000c000000042000000153153153000000000100,
   0x40000000000000040156040040040040040040040040040040040040040040040040040040040040040040040040000000000000040040040040040040040040040040040040000000000000000000040040040040000000000000000000000000000000000000000000000000000000000202,
   0x40000000000000040040040040040040040040040040040040040040040040040040040040040040158040040040000000000000040040040040040040040040040040040040000000000000000000040040040040000000000000000000000000000000000000000000000000000000000202,
   0x4000000000000004004004004004004004004004004004004004004004004004004004004015a040040040040040000000000000040040040040040040040040040040040040000000000000000000040040040040000000000000000000000000000000000000000000000000000000000202,
   0x4000000000000004004004004004004004004004015c040040040040040040040040040040040040040040040040000000000000040040040040040040040040040040040040000000000000000000040040040040000000000000000000000000000000000000000000000000000000000202,
   0x4000000000000004004004004004015e040040040040040040040040040040040040040040040040040040040040000000000000040040040040040040040040040040040040000000000000000000040040040040000000000000000000000000000000000000000000000000000000000202,
   0x40000000000000040040040040040040040040040040040040040040040040040040040040040040040040040040000000000000040040040040040040040040040040040040000000000000000000040040040040000000000000000000000000000000000000000000000000000000002222,
   0x3600000002604004004004004004004004004004004004004004004004004004004004016204004004004004000000004401e04004004004004004004004004004004004010000000000000000003e03e03e03c00010c1020001060fc00000c000000042000000161161161000000000100]

/-- Entries 176 to 191 of `tokenRows`. -/
def tokenRows11 : List Nat :=
  [0x40000000000000040164040040040040040040040040040040040040040040040040040040040040040040040040000000000000040040040040040040040040040040040040000000000000000000040040040040000000000000000000000000000000000000000000000000000000000202,
   0x40000000000000040040040040040040040040040040040040040040040040040040040040040040166040040040000000000000040040040040040040040040040040040040000000000000000000040040040040000000000000000000000000000000000000000000000000000000000202,
   0x40000000000000040040040040040040040040040040040040040040040040040040040040168040040040040040000000000000040040040040040040040040040040040040000000000000000000040040040040000000000000000000000000000000000000000000000000000000000202,
   0x4000000000000004004004004004004004004004016a040040040040040040040040040040040040040040040040000000000000040040040040040040040040040040040040000000000000000000040040040040000000000000000000000000000000000000000000000000000000000202,
   0x4000000000000004004004004004016c040040040040040040040040040040040040040040040040040040040040000000000000040040040040040040040040040040040040000000000000000000040040040040000000000000000000000000000000000000000000000000000000000202,
   0x400000000000000400400400400400400400400400400400400400400400400400400400400400400400400400400000000000000400400400400400400400400400400400400000000000000000000400400400400000000000000000f2000000000000000000000000000000000000000202,
   0x2400004004004004004004004004004004004004004004004004004004004004004004004004004004003202004401e04004004004004004004004004004004004002201401c0340060fe00000000000002c15011001002a01200e00c03002e04200011216f16f16f000000000000,
   0x2810400004004004004004004004004004004004004004004004004004004004004004004004004004004012002004401e04004004004004004004004004004004004010011801c1220060fe00000000000011a15010201010611600e00c11e11c042000038171171171000000000000,
   0x2810400004004004004004004004004004004004004004004004004004004004004004004004004004004012002004401e04004004004004004004004004004004004010011801c12200601600000000000011a15010201010611600e00c11e11c042000038173173173000000000000,
   0x400400400400400400400400400400400400400400400400400400400400180400400400400400000000440000400400400400400400400400400400400400000000000000000fe000000000000000000176000000000000000000000042000000175175175000000000000,
   0x56000000000000000000000000000000000000000000000000000000000000000000000000000000000000,
   0x18018002818002618018018018018018018018018018018018018018018018018018018018018018018018018018018018017e18018018018018018018018018018018018018018018018018018018018018018018018018018018018018018018018018017c18018017a17917a180000000000,
   0x18018000018000018018018018018018018018018018018018018018018018018018018018018018018018018018018018017e18018018018018018018018018018018018018018018018018018018018018018018018018018018018018018018018018017c18018017a00017a180000005c5c,
   0x17c17c00017c00017c17c17c17c17c17c17c17c17c17c17c17c17c17c17c17c17c17c17c17c17c17c17c17c17c17c17c17c17c17c17c17c17c17c17c17c17c17c17c17c17c17c17c17c17c17c17c17c17c17c17c17c17c17c17c17c17c17c17c17c17c17c17c17c17c17c00017c17c000005c5c,
   0x180180000180000180180180180180180180180180180180180180180180180180180180180180180180180180180180180180180180180180180180180180180180180180180180180180180180180180180180180180180180180180180180180180180180180180182086180180184005c5c,
   0x180180000180000180180180180180180180180180180180180180180180180180180180180180180180180180180180180180180180180180180180180180180180180180180180180180180180180180180180180180180180180180180180180180180180180180180000180180000005c5c]

/-- Entries 192 to 193 of `tokenRows`. -/
def tokenRows12 : List Nat :=
  [0x180180000180000180180180180180180180180180180180180180180180180180180180180180180180180180180180180180180180180180180180180180180180180180180180180180180180180180180180180180180180180180180180180180180180180180180086180180000005c5c,
   0x180180000180000180180180180180180180180180180180180180180180180180180180180180180180180180180180180180180180180180180180180180180180180180180180180180180180180180180180180180180180180180180180180180180180180180180000180180000005c5c]

/-- The rows of the token automaton. -/
def tokenRows : List (List Nat) :=
  [tokenRows0, tokenRows1, tokenRows2, tokenRows3, tokenRows4, tokenRows5, tokenRows6, tokenRows7,
   tokenRows8, tokenRows9, tokenRows10, tokenRows11, tokenRows12]

end CellScript.Python.Grammar
