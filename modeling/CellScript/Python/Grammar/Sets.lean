set_option autoImplicit false

/-! # Sets of symbols

The rows of the automaton name sets of symbols by number. A set is kept as one number with a bit per
symbol; the sets of phrases count from the first phrase. -/

namespace CellScript.Python.Grammar

/-- Entries 0 to 15 of `tokenSets`. -/
def tokenSets0 : List Nat :=
  [0xfe7f7ffffffffffffffffffffff, 0x18000000000000000000000000, 0x7610000000000000000000000,
   0x10042000000000000, 0x1, 0x100000000000000000000000000, 0x8, 0x20, 0x80, 0x800, 0x1000,
   0x4000, 0x10000, 0x20000, 0x40000, 0x80000]

/-- Entries 16 to 31 of `tokenSets`. -/
def tokenSets1 : List Nat :=
  [0x100000, 0x200000, 0x400000, 0x4000000, 0x10000000, 0x20000000, 0x80000000, 0x100000000,
   0x1000000000, 0x2000000000, 0x10000000000, 0x20000000000, 0x40000000000, 0x80000000000,
   0x200000000000, 0x400000000000]

/-- Entries 32 to 47 of `tokenSets`. -/
def tokenSets2 : List Nat :=
  [0x1000000000000, 0x10000000000000, 0x80000000000000, 0x2000000000000000000,
   0x8000000000000000000000, 0x2, 0x800000000000000000000000, 0x80000000000000000000000000,
   0x20000001feff09000040402414, 0x7ffc000000100000000000, 0x40010001000, 0x800200,
   0x42000000000000, 0x8000, 0x8000000000, 0x10000000000000000]

/-- Entries 48 to 63 of `tokenSets`. -/
def tokenSets3 : List Nat :=
  [0x7ffc000000100000800000, 0x200, 0x20000000000000000000000000, 0x40000000000000000000000000,
   0x20000001feff09008040400414, 0x80004000000, 0x2000, 0x20000001feff09008040402414,
   0x20000001feff89008040402414, 0x7610000000000000000000002, 0x20007ffdfe0380100040c00604,
   0xfc09008000002010, 0x20000001feff89108040c02634, 0x20000001fe0380100040c00624,
   0x100001feffa9108040c02410, 0x100001fe03a0100060c00600]

/-- Entries 64 to 79 of `tokenSets`. -/
def tokenSets4 : List Nat :=
  [0x100001feffa9108040c02610, 0x1feff89008060402710, 0x100000000000, 0x1feff89108042c02610,
   0x1feff89808040402610, 0x20800000, 0x1feffa9008060c02610, 0x1feffa9008040402610,
   0x1feff89108040c02710, 0x1fe0380100060c00700, 0x1feff89808060c02610, 0x1feff89008040402710,
   0x1feff89008060402410, 0x300, 0x1fe0380100042c00600, 0x800000000200]

/-- Entries 80 to 95 of `tokenSets`. -/
def tokenSets5 : List Nat :=
  [0x20007ffc000000100000800204, 0x1fe0380800060c00600, 0x1feff89808040c02610,
   0x7ffc000000100000800200, 0x800000000000, 0x100, 0x20000000000000,
   0x20007ffc000000100000800004, 0x100000000020100000800200, 0x30400100, 0x40000001000,
   0x800030400000, 0x20000030400000, 0x20000000000000000000000004, 0x20000000000000000000000024,
   0x800000]

/-- Entries 96 to 111 of `tokenSets`. -/
def tokenSets6 : List Nat :=
  [0x800300, 0x40000200, 0x20000001feffcb408040402c94, 0x107e180020100d36f31b47f58ab, 0x2000000,
   0x200000000, 0x800000000, 0x400000000, 0x187e180020100d36f31b47f58aa,
   0x20000001feffcb008040402c94, 0x1000000, 0x107e180020100d36f39b67f58ab,
   0x187e180020100d36f39b67f58aa, 0xfc4b408000002890, 0x20007ffdfeffcb508040c02e94,
   0x107e180020100d36f31b67f58ab]

/-- Entries 112 to 127 of `tokenSets`. -/
def tokenSets7 : List Nat :=
  [0x187e180020100d36f31b67f58aa, 0x20007ffdfe0380100040400604, 0xfc43408000002880,
   0x8000000800010, 0x107e180020100d36f39b77f58ab, 0x107e180020100d36f3bb67f58ab,
   0x107e180020100d36f3db67f58ab, 0x187e180020100d36f3bb67f58aa, 0x187e180020100d36f3db67f58aa,
   0x187e180020100d36f39b77f58aa, 0x100000000020100000800000, 0x107e180020100d36f31b77f58ab,
   0x187e180020100d36f31b77f58aa, 0x107e180020100d36f39b47f58ab, 0x187e180020100d36f39b47f58aa,
   0x40000000]

/-- Entries 128 to 143 of `tokenSets`. -/
def tokenSets8 : List Nat :=
  [0x20000000000300100000c00624, 0x1fc0000000040000000, 0x1c01000000000800, 0x8000000000002000,
   0x10, 0x8000000000000, 0x2000000000000000, 0x4000000000000000, 0x20000000000000000,
   0x300800030c00600, 0x320000030c00600, 0x100000000320100000c00600, 0x20000000000300000000c00604,
   0x20000001feffcb508040c02eb4, 0x300000030400700, 0x300100002c00600]

/-- Entries 144 to 159 of `tokenSets`. -/
def tokenSets9 : List Nat :=
  [0x300100000c00700, 0x20000001feffcb100040c02e24, 0x20000001fee388100040c02624,
   0x20000001fee3ca100040c02624, 0x20000001fe0388100040c00624, 0x20000001fe2388100040c00624,
   0x20000001fe6388100040c00624, 0x1feffcbc08070c02e90, 0x1feffeb408070c02e90,
   0x100001feffeb508040c02e90, 0x300800000c00600, 0x120000001feffcb508040c02eb4,
   0x1feffcb408070402f90, 0x1feffcb508042c02e90, 0x1feffcb800070c02e00, 0x1fee388800070c02600]

/-- Entries 160 to 175 of `tokenSets`. -/
def tokenSets10 : List Nat :=
  [0x1fe0380800070c00600, 0x1fee3ca800070c02600, 0x1fe0388800070c00600, 0x1fe2388800070c00600,
   0x1fe6388800070c00600, 0x1feffcb808070c02e90, 0x1feffeb000070c02e00, 0x1fee3a8000070c02600,
   0x1fe03a0000070c00600, 0x1fee3ea000070c02600, 0x1fe03a8000070c00600, 0x1fe23a8000070c00600,
   0x1fe63a8000070c00600, 0x100001feffeb100040c02e00, 0x100001feffeb508070c02e90,
   0x100001fee3a8100040c02600]

/-- Entries 176 to 191 of `tokenSets`. -/
def tokenSets11 : List Nat :=
  [0x100001fe03a0100040c00600, 0x100001fee3ea100040c02600, 0x100001fe03a8100040c00600,
   0x100001fe23a8100040c00600, 0x100001fe63a8100040c00600, 0x300000000400700,
   0x1feffcb508040c02f90, 0x300800000400600, 0x320000000400600, 0x1feffc3408040402c80,
   0x8800000800210, 0x30000000, 0x20000001feffcb108040c02c94, 0x1feffcb000070402f00,
   0x1feffcbc08040402e90, 0x30800000]

/-- Entries 192 to 207 of `tokenSets`. -/
def tokenSets12 : List Nat :=
  [0x1fee388000070402700, 0x1fe0380000070400700, 0x1fee3ca000070402700, 0x1fe0388000070400700,
   0x1fe2388000070400700, 0x1fe6388000070400700, 0x100001feffeb508040c02c90,
   0x1feffcb100042c02e00, 0x1feffeb408040402e90, 0x1fee388100042c02600, 0x1fee3ca100042c02600,
   0x1fe0388100042c00600, 0x1fe2388100042c00600, 0x1fe6388100042c00600, 0x1feffcb108040c02f90,
   0x100000001feffcbc08070c02e90]

/-- Entries 208 to 223 of `tokenSets`. -/
def tokenSets13 : List Nat :=
  [0x100000001feffeb408070c02e90, 0x100100001feffeb508040c02e90, 0x1feffcb100040c02f00,
   0x1fee388100040c02700, 0x1fe0380100040c00700, 0x1fee3ca100040c02700, 0x1fe0388100040c00700,
   0x1fe2388100040c00700, 0x1fe6388100040c00700, 0x1feffcbc08040c02e90, 0x1feffcb408070402c90,
   0x1feffcb108040c02e90, 0x1feffcb408040402f90, 0x100000001feffcb408070402f90,
   0x1feffcb408070c02f90, 0x100000001feffcb508042c02e90]

/-- Entries 224 to 239 of `tokenSets`. -/
def tokenSets14 : List Nat :=
  [0x1feffcb808040c02e90, 0x100000001feffcb508040c02f90, 0x1feffcb800040c02e00,
   0x1fee388800040c02600, 0x1fe0380800040c00600, 0x1fee3ca800040c02600, 0x1fe0388800040c00600,
   0x1fe2388800040c00600, 0x1fe6388800040c00600, 0x1fe0380000040400400,
   0x20000000000008100000800014, 0x8100000800310, 0x100000001feffcbc08040c02e90, 0x8100000800210,
   0x7ffc00fc4b508000802a90, 0x7000000000004000000000000]

/-- Entries 240 to 255 of `tokenSets`. -/
def tokenSets15 : List Nat :=
  [0x8000000800, 0x600000000000000000000000, 0x2000000000000, 0x20000000000308100000c00634,
   0x308800030c00610, 0x308100002c00610, 0x308100000c00710, 0x308800000c00610,
   0x107e100000100524c0014001882, 0x400000000000000, 0x7ffc000000000000000000,
   0x7ffc000000100040800200, 0x400, 0x100000000000000, 0x200000000000000,
   0x20000000000008100000800234]

/-- Entries 256 to 271 of `tokenSets`. -/
def tokenSets16 : List Nat :=
  [0x20000000000008100000c00234, 0x20000000000008100000c00634, 0x20000000000208100000c00634,
   0x600060000000000000000000000, 0x800000000000000000000000000, 0x8800030800210, 0x8800030c00210,
   0x8800030c00610, 0x208800030c00610, 0x8100002800210, 0x8100002c00210, 0x8100002c00610,
   0x208100002c00610, 0x8100000c00310, 0x8100000c00710, 0x208100000c00710]

/-- Entries 272 to 287 of `tokenSets`. -/
def tokenSets17 : List Nat :=
  [0x8000000c00680, 0x8000000c00688, 0x20000030800200, 0x20000030c00200, 0x20000030c00600,
   0x220000030c00600, 0x100000000020100000c00200, 0x100000000020100000c00600,
   0x100000000220100000c00600, 0x8800000c00210, 0x8800000c00610, 0x208800000c00610,
   0x800000000000010000000000000, 0x20000000000000000000000224, 0x20000030000200, 0x30400300]

/-- Entries 288 to 303 of `tokenSets`. -/
def tokenSets18 : List Nat :=
  [0x8000000c00600, 0x30000300, 0x30400700, 0x200000030400700, 0x8000000c00698, 0x800030400200,
   0x8000000000780, 0x20000030400200, 0x8800000000680, 0x28000000000680, 0x40,
   0x20000000000000000000000204, 0x8000000000700, 0x8800000000600, 0x28000000000600,
   0x20000000000000000000000604]

/-- Entries 304 to 319 of `tokenSets`. -/
def tokenSets19 : List Nat :=
  [0x202010000000, 0x20000000000200, 0xe00060000000010000000000000, 0x8100000800290, 0xc00600,
   0x20000000000000100000000004, 0x8000000000790, 0x8800000000690, 0x100000000300,
   0x28000000000690, 0x100000000000000000000000, 0x80000000000000000000000,
   0x20000000000000000000000614, 0x100000000200, 0x8000000800000, 0xc00400]

/-- Entries 320 to 335 of `tokenSets`. -/
def tokenSets20 : List Nat :=
  [0x700, 0x800000000600, 0x20000000000600, 0x28000000800600, 0xa, 0x1202010000000, 0x8000000,
   0xc00200, 0xc00000, 0x4, 0x100000800200, 0xe00000000, 0x80000000030000000000000,
   0x20000000000000000040000004, 0x4000000000, 0x4000800000]

/-- Entries 336 to 337 of `tokenSets`. -/
def tokenSets21 : List Nat :=
  [0x80000000000000000008000000, 0x4000000000002]

/-- The sets of tokens. -/
def tokenSets : List (List Nat) :=
  [tokenSets0, tokenSets1, tokenSets2, tokenSets3, tokenSets4, tokenSets5, tokenSets6, tokenSets7,
   tokenSets8, tokenSets9, tokenSets10, tokenSets11, tokenSets12, tokenSets13, tokenSets14,
   tokenSets15, tokenSets16, tokenSets17, tokenSets18, tokenSets19, tokenSets20, tokenSets21]

/-- Entries 0 to 15 of `phraseSets`. -/
def phraseSets0 : List Nat :=
  [0x7800007e68c8, 0x4085ef008003000000000000000000000, 0x20000000000000000000088048e4800006,
   0x4000000030c40000000000000008000, 0x980000000000000000000000,
   0x20000000000000000000000010000000000000, 0x3000000000000000000, 0x3000000000000000000000000,
   0x1, 0x10000, 0x800000000000000000, 0x10000000000000000000, 0x100000000000000000000,
   0x200000000000000000000, 0x200000000000000000000000, 0x10000000000000000000000000000000]

/-- Entries 16 to 31 of `phraseSets`. -/
def phraseSets1 : List Nat :=
  [0x20000000000000, 0x4085ef00b003000000000000000000000, 0x7c0000000000000000000000000,
   0x1000000000000, 0x20000000000000000000000000, 0x4, 0x1000, 0x800000000002020000000000,
   0x800000000000000000000000000000, 0x2020000000000, 0x200000000000000000,
   0x800000000000000000000000, 0x40000000000, 0x10000000000000000000000000000, 0x20000000000,
   0x2000000000000]

/-- Entries 32 to 47 of `phraseSets`. -/
def phraseSets2 : List Nat :=
  [0xd80000000040000000000000, 0x80000000a00000000040000000000000, 0x2000000000,
   0x800000000000000060000000000, 0x40000000000000, 0x40080000000000000000000,
   0x10000000000000000040000000000, 0x4000000000000000000000000, 0x1000000000,
   0x800000000000000000000000000100000000, 0x2000000, 0x400000000,
   0x1000000000000000000000000000200000000, 0x1000000, 0x80000000000000000000000000000000000,
   0x100000000000000004000000000000]

/-- Entries 48 to 63 of `phraseSets`. -/
def phraseSets3 : List Nat :=
  [0xc000000000000000000000, 0x800000000000000000000000000000000000000,
   0x20000000010000000000000000000000000000000, 0x80000000000000e7a00000000000000,
   0x10400000000000000, 0x80000000000000, 0x100000000000000, 0x2000000000000000000000000000000,
   0x80000000000000c7a00000000000000, 0x8000000000000000, 0x20000000000000000,
   0x400000000000000000000000000000000000000, 0x180000001000000c000000000000000000,
   0x30000000000000000000, 0x10000000000, 0x100000000000000000]

/-- Entries 64 to 79 of `phraseSets`. -/
def phraseSets4 : List Nat :=
  [0x400000000000000000, 0x1000000000000000000, 0x200000000000000000000000000000,
   0x1000000000000000000000000000000, 0x8000000000000000000000000000000000000000,
   0x40000000060000000000000000000000000000000, 0x80000000100000000000000000000000000000000,
   0x10000000000000000000000000000000000000, 0x40000000000000000000000000000000000,
   0x40000000000000000000000000000000000000, 0x804000000000,
   0x20000000000000000000000000000000000, 0x1000000000000000000000000000000000000000,
   0x80000000000020, 0x10, 0x8000000000000000000000000000000000]

/-- Entries 80 to 95 of `phraseSets`. -/
def phraseSets5 : List Nat :=
  [0x100000000000000000000000000000000000, 0x2000000000000000000000000000000000000000, 0x100,
   0x200, 0x400, 0x4000000003000000000000000000000000000000,
   0x8000000000000000000000000000000000000, 0x10000000000000000000000000000000000000000,
   0x400000000000000000000000000000000000, 0x80000000000000000000000000000000000000,
   0x10000000000000000000000000000000000, 0x4000000000000, 0x200000000000000000000000000000000,
   0x40000000000000000000000000000000, 0x100000000000000000000000000000000000000000,
   0x100000000000000000000000000000000000000]

/-- Entries 96 to 103 of `phraseSets`. -/
def phraseSets6 : List Nat :=
  [0x8000000000, 0x4000000000000000000000000000000000000, 0x10000000,
   0x200000000000000000000000000000000000, 0x4000000000000000000000000000000000,
   0x2000000000000000000000000000000000000, 0x200000000000000000000000000000000000000, 0x8000000]

/-- The sets of phrases. -/
def phraseSets : List (List Nat) :=
  [phraseSets0, phraseSets1, phraseSets2, phraseSets3, phraseSets4, phraseSets5, phraseSets6]

/-- The choices of a state that has more than one for a token, in the coding of a row entry. -/
def choices : List (List (List Nat)) :=
  [[[17, 16734], [17, 14510], [17, 1526], [17, 6862], [17, 670], [17, 3774], [17, 2982], [17, 3622], [17, 2798], [17, 19742], [17, 19750], [17, 19758], [17, 3782], [17, 686], [17, 3630], [17, 5750]],
   [[17, 3790], [17, 20550], [17, 3206], [17, 20558], [17, 20566], [17, 20574], [17, 3638], [17, 598], [17, 20582], [17, 1534], [17, 3798], [17, 6870], [17, 1542], [17, 3806], [17, 12838], [17, 2806]],
   [[17, 8270], [17, 4822], [17, 1238], [17, 13206], [17, 4774], [17, 694], [17, 3766], [17, 6710], [17, 4782], [17, 22038], [17, 3606], [17, 22054], [17, 22046], [33, 41], [41, 2184], [41, 6872]],
   [[41, 20656], [41, 7472], [41, 4600], [41, 2192], [41, 2240], [41, 7464], [41, 2248], [41, 6864], [41, 3800], [41, 7432], [41, 49], [289, 297], [329, 3678], [337, 3958], [329, 3742], [337, 4790]],
   [[289, 353], [361, 369], [297, 377], [385, 393], [433, 4014], [433, 4798], [1113, 13206], [1113, 13438], [1113, 13470], [1113, 13502], [1113, 13342], [1113, 13374], [1113, 13534], [1113, 13566], [1337, 6910], [1337, 20726]],
   [[1337, 6790], [1337, 7118], [1337, 6814], [1337, 7046], [1337, 6806], [1337, 7326], [1337, 6838], [1337, 7190], [1337, 6822], [1337, 7262], [1337, 6830], [1337, 7390], [1337, 6846], [1337, 6982], [1337, 6798], [1369, 6766]],
   [[1369, 6726], [1449, 3864], [1489, 1806], [1489, 14118], [1497, 2616], [1449, 4264], [1449, 4200], [1449, 4432], [1561, 21110], [1449, 4320], [1449, 4376], [1449, 4488], [1617, 14166], [1449, 4104], [1697, 3950], [1697, 20766]],
   [[1697, 5782], [1697, 4574], [1697, 22086], [1697, 6678], [1561, 21294], [1697, 4622], [1697, 22102], [1697, 6694], [1561, 21438], [1561, 21574], [1721, 3798], [1561, 20742], [1969, 3390], [1985, 12238], [1553, 4134], [1969, 3486]],
   [[1969, 3526], [1369, 6758], [1553, 3902], [2089, 1878], [2089, 15990], [1985, 12254], [1985, 12270], [1985, 12286], [2353, 16814], [2417, 18150], [2425, 4006], [2433, 20798], [2449, 12006], [2457, 12022], [2529, 1230], [1769, 2830]],
   [[2545, 4022], [2553, 3686], [2561, 3030], [2569, 13046], [1849, 2638], [2585, 3366], [2097, 1998], [2601, 12206], [1369, 6742], [2417, 18526], [1769, 2870], [2553, 3726], [2569, 13062], [2457, 12030], [1369, 6750], [1553, 4598]],
   [[1769, 2894], [2457, 12038], [1553, 4638], [1553, 4230], [1369, 6734]]]

end CellScript.Python.Grammar
