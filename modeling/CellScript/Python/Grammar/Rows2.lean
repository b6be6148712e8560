set_option autoImplicit false

/-! # Rows of the automaton, part 2 of 6

One number per state; `Grammar.Automaton` says how it is read. -/

namespace CellScript.Python.Grammar

/-- What states 480 to 511 do with a token. -/
def moves15 : List Nat :=
  [0x4e80261eb002532200230ed8022060002108c801f1d2800908c0008339000500030011ea80351ad00031ea002a20480020e027c,
   0x4e80261eb002532200230ed8022060002108c801f1d2800908c0008339000500030011ea80351ad00031ea002a20480020e027c,
   0x4e80261eb002532200230ed8022060002108c801f1d2800908c0008339000500030011ea80351ad00031ea002a20480020e027c,
   0x4e80261eb002532200230ed8022060002108c801f1d2800908c0008339000500030011ea80351ad00031ea002a20480020e027c,
   0x52002623c0025328002311f80220658021089001f1d0800908880083438005000300123b80351d3000323b002a29180020e027c,
   0x4e80261eb002532200230ed8022060002108c801f1d2800908c0008339000500030011ea80351ad00031ea002a20480020e027c,
   0x4e80261eb002532200230ed8022060002108c801f1d2800908c0008339000500030011ea80351ad00031ea002a20480020e027c,
   0x4e80261eb002532200230ed8022060002108c801f1d2800908c0008339000500030011ea80351ad00031ea002a20480020e027c,
   0x4e80261eb002532200230ed8022060002108c801f1d2800908c0008339000500030011ea80351ad00031ea002a20480020e027c,
   0x4e80261eb002532200230ed8022060002108c801f1d2800908c0008339000500030011ea80351ad00031ea002a20480020e027c,
   0x53002621d8025329002312380220688021090001f1d980090a080083498005000300121d00351d6000321c802a25100020e027c,
   0x52002623c0025328002311f80220658021089001f1d0800908880083438005000300123b80351d3000323b002a29180020e027c,
   0x4e80261eb002532200230ed8022060002108c801f1d2800908c0008339000500030011ea80351ad00031ea002a20480020e027c,
   0x5880262458025327002311b00220638021097001f1d6800909300083418005000300124500351d10003244802a28080020e027c,
   0x52002623c0025328002311f80220658021089001f1d0800908880083438005000300123b80351d3000323b002a29180020e027c,
   0x51880660e5806551d006400030010109063050aa8, 0x51880660f7006751d0064000300101090630502af,
   0x4e80261eb002532200230ed8022060002108c801f1d2800908c0008339000500030011ea80351ad00031ea002a20480020e027c,
   0x540026255802532a0023125802206b8021093801f1d5800908f800834d8005000300125500351d80003254802a2a780020e027c,
   0x540026255802532a0023125802206b8021093801f1d5800908f800834d8005000300125500351d80003254802a2a780020e027c,
   0x4e80261eb002532200230ed8022060002108c801f1d2800908c0008339000500030011ea80351ad00031ea002a20480020e027c,
   0x52002623c0025328002311f80220658021089001f1d0800908880083438005000300123b80351d3000323b002a29180020e027c,
   0x52002623c0025328002311f80220658021089001f1d0800908880083438005000300123b80351d3000323b002a29180020e027c,
   0x51880660e5806551d006400030010111063050aa8, 0x51880660f7006751d0064000300101110630502af,
   0x52002623c0025328002311f80220658021089001f1d0800908880083438005000300123b80351d3000323b002a29180020e027c,
   0x52002623c0025328002311f80220658021089001f1d0800908880083438005000300123b80351d3000323b002a29180020e027c,
   0x52002623c0025328002311f80220658021089001f1d0800908880083438005000300123b80351d3000323b002a29180020e027c,
   0x52002623c0025328002311f80220658021089001f1d0800908880083438005000300123b80351d3000323b002a29180020e027c,
   0x528026211802532a8023126002206d002109e001f1d78009096800834f8005000300121500351d90003214802a2c300020e027c,
   0x5880262458025327002311b00220638021097001f1d6800909300083418005000300124500351d10003244802a28080020e027c,
   0x540026255802532a0023125802206b8021093801f1d5800908f800834d8005000300125500351d80003254802a2a780020e027c]

/-- Where states 480 to 511 go after a phrase. -/
def gotos15 : List Nat :=
  [0x3b90f3580d6640c4240ba0e09661034091107, 0x3b90f3580d74e0c4240ba0e09661034091107,
   0x3b90f3580d6650c4240ba0e09661034091107, 0x3b90f3580d6660c4240ba0e09661034091107,
   0x3db0f3bd0d7c10c4fe0ba5b096aa035231107, 0x3b90f3580d6670c4240ba0e09661034091107,
   0x3b90f3580d6680c4240ba0e09661034091107, 0x3b90f3580d6ed0c4240ba0e09661034091107,
   0x3b90f3580d7530c4240ba0e09661034091107, 0x3b90f3580d6f00c4240ba0e09661034091107,
   0x3cc0f37f0d6f10c4820ba7f096c7034a21107, 0x3db0f3bd0d7560c4fe0ba5b096aa035231107,
   0x3b90f3580d6690c4240ba0e09661034091107, 0x3d80f3bc0d7200c5480ba44096f6035011107,
   0x3db0f3bd0d7cd0c4fe0ba5b096aa035231107, 0x2df2b2b52a25e2903, 0x2df2b2b52a25f2c03,
   0x3b90f3580d66a0c4240ba0e09661034091107, 0x4040f3be0d75c0c53e0ba9a096b50354f1107,
   0x4040f3be0d75d0c53e0ba9a096b50354f1107, 0x3b90f3580d71c0c4240ba0e09661034091107,
   0x3db0f3bd0d7cf0c4fe0ba5b096aa035231107, 0x3db0f3bd0d7540c4fe0ba5b096aa035231107,
   0x2ef2b2b72a25e2903, 0x2ef2b2b72a25f2c03, 0x3db0f3bd0d7680c4fe0ba5b096aa035231107,
   0x3db0f3bd0d7d70c4fe0ba5b096aa035231107, 0x3db0f3bd0d76e0c4fe0ba5b096aa035231107,
   0x3db0f3bd0d7d80c4fe0ba5b096aa035231107, 0x4650f4070d7790c5830baa6094a8076d9035860108,
   0x3d80f3bc0d6f80c5480ba44096f6035011107, 0x4040f3be0d77f0c53e0ba9a096b50354f1107]

/-- What states 512 to 543 do with a token. -/
def moves16 : List Nat :=
  [0x5880262458025327002311b00220638021097001f1d6800909300083418005000300124500351d10003244802a28080020e027c,
   0x5880262458025327002311b00220638021097001f1d6800909300083418005000300124500351d10003244802a28080020e027c,
   0x5880262458025327002311b00220638021097001f1d6800909300083418005000300124500351d10003244802a28080020e027c,
   0x5880262458025327002311b00220638021097001f1d6800909300083418005000300124500351d10003244802a28080020e027c,
   0x51002623400253298023124802206a00210a1001f1d4000909d800834b8005000300123380351d70003233002a26400020e027c,
   0x5880262458025327002311b00220638021097001f1d6800909300083418005000300124500351d10003244802a28080020e027c,
   0x55c80660e9806555e006400030010109068050ba8, 0x55c806612b006755e0064000300101090680503af,
   0x5880262458025327002311b00220638021097001f1d6800909300083418005000300124500351d10003244802a28080020e027c,
   0x55c80660e9806555e006400030010111068050ba8, 0x55c806612b006755e0064000300101110680503af,
   0x52002623c0025328002311f80220658021089001f1d0800908880083438005000300123b80351d3000323b002a29180020e027c,
   0x52002623c0025328002311f80220658021089001f1d0800908880083438005000300123b80351d3000323b002a29180020e027c,
   0x52002623c0025328002311f80220658021089001f1d0800908880083438005000300123b80351d3000323b002a29180020e027c,
   0x52002623c0025328002311f80220658021089001f1d0800908880083438005000300123b80351d3000323b002a29180020e027c,
   0x52002623c0025328002311f80220658021089001f1d0800908880083438005000300123b80351d3000323b002a29180020e027c,
   0x52002623c0025328002311f80220658021089001f1d0800908880083438005000300123b80351d3000323b002a29180020e027c,
   0x52002623c0025328002311f80220658021089001f1d0800908880083438005000300123b80351d3000323b002a29180020e027c,
   0x52002623c0025328002311f80220658021089001f1d0800908880083438005000300123b80351d3000323b002a29180020e027c,
   0x55002622b802532880231220022067002109a801f1d8800909a00083478005000300122b00351d4800322a802a24400020e027c,
   0x55002622b802532880231220022067002109a801f1d8800909a00083478005000300122b00351d4800322a802a24400020e027c,
   0x55002622b802532880231220022067002109a801f1d8800909a00083478005000300122b00351d4800322a802a24400020e027c,
   0x55002622b802532880231220022067002109a801f1d8800909a00083478005000300122b00351d4800322a802a24400020e027c,
   0x55002622b802532880231220022067002109a801f1d8800909a00083478005000300122b00351d4800322a802a24400020e027c,
   0x55002622b802532880231220022067002109a801f1d8800909a00083478005000300122b00351d4800322a802a24400020e027c,
   0x55002622b802532880231220022067002109a801f1d8800909a00083478005000300122b00351d4800322a802a24400020e027c,
   0x53002621d8025329002312380220688021090001f1d980090a080083498005000300121d00351d6000321c802a25100020e027c,
   0x53002621d8025329002312380220688021090001f1d980090a080083498005000300121d00351d6000321c802a25100020e027c,
   0x53002621d8025329002312380220688021090001f1d980090a080083498005000300121d00351d6000321c802a25100020e027c,
   0x53002621d8025329002312380220688021090001f1d980090a080083498005000300121d00351d6000321c802a25100020e027c,
   0x53002621d8025329002312380220688021090001f1d980090a080083498005000300121d00351d6000321c802a25100020e027c,
   0x53002621d8025329002312380220688021090001f1d980090a080083498005000300121d00351d6000321c802a25100020e027c]

/-- Where states 512 to 543 go after a phrase. -/
def gotos16 : List Nat :=
  [0x3d80f3bc0d6f90c5480ba44096f6035011107, 0x3d80f3bc0d6fa0c5480ba44096f6035011107,
   0x3d80f3bc0d6fb0c5480ba44096f6035011107, 0x3d80f3bc0d6fc0c5480ba44096f6035011107,
   0x3cf0f3880d6c30c4ea0ba8e096d0034c81107, 0x3d80f3bc0d6fe0c5480ba44096f6035011107,
   0x3182b2c02a2642903, 0x3182b2c02a2652c03, 0x3d80f3bc0d6ff0c5480ba44096f6035011107,
   0x3282b2c22a2642903, 0x3282b2c22a2652c03, 0x3db0f3bd0d6ac0c4fe0ba5b096aa035231107,
   0x3db0f3bd0d6ad0c4fe0ba5b096aa035231107, 0x3db0f3bd0d6ae0c4fe0ba5b096aa035231107,
   0x3db0f3bd0d6af0c4fe0ba5b096aa035231107, 0x3db0f3bd0d6b00c4fe0ba5b096aa035231107,
   0x3db0f3bd0d7ae0c4fe0ba5b096aa035231107, 0x3db0f3bd0d6b10c4fe0ba5b096aa035231107,
   0x3db0f3bd0d6b20c4fe0ba5b096aa035231107, 0x3c90f3760d67c0c4ca0ba6d0967a034881107,
   0x3c90f3760d67d0c4ca0ba6d0967a034881107, 0x3c90f3760d67e0c4ca0ba6d0967a034881107,
   0x3c90f3760d67f0c4ca0ba6d0967a034881107, 0x3c90f3760d6800c4ca0ba6d0967a034881107,
   0x3c90f3760d6810c4ca0ba6d0967a034881107, 0x3c90f3760d6820c4ca0ba6d0967a034881107,
   0x3cc0f37f0d6c90c4820ba7f096c7034a21107, 0x3cc0f37f0d6ca0c4820ba7f096c7034a21107,
   0x3cc0f37f0d6cb0c4820ba7f096c7034a21107, 0x3cc0f37f0d6cc0c4820ba7f096c7034a21107,
   0x3cc0f37f0d6cd0c4820ba7f096c7034a21107, 0x3cc0f37f0d6ce0c4820ba7f096c7034a21107]

/-- What states 544 to 575 do with a token. -/
def moves17 : List Nat :=
  [0x53002621d8025329002312380220688021090001f1d980090a080083498005000300121d00351d6000321c802a25100020e027c,
   0x51002623400253298023124802206a00210a1001f1d4000909d800834b8005000300123380351d70003233002a26400020e027c,
   0x51002623400253298023124802206a00210a1001f1d4000909d800834b8005000300123380351d70003233002a26400020e027c,
   0x51002623400253298023124802206a00210a1001f1d4000909d800834b8005000300123380351d70003233002a26400020e027c,
   0x51002623400253298023124802206a00210a1001f1d4000909d800834b8005000300123380351d70003233002a26400020e027c,
   0x51002623400253298023124802206a00210a1001f1d4000909d800834b8005000300123380351d70003233002a26400020e027c,
   0x51002623400253298023124802206a00210a1001f1d4000909d800834b8005000300123380351d70003233002a26400020e027c,
   0x51002623400253298023124802206a00210a1001f1d4000909d800834b8005000300123380351d70003233002a26400020e027c,
   0x540026255802532a0023125802206b8021093801f1d5800908f800834d8005000300125500351d80003254802a2a780020e027c,
   0x540026255802532a0023125802206b8021093801f1d5800908f800834d8005000300125500351d80003254802a2a780020e027c,
   0x540026255802532a0023125802206b8021093801f1d5800908f800834d8005000300125500351d80003254802a2a780020e027c,
   0x540026255802532a0023125802206b8021093801f1d5800908f800834d8005000300125500351d80003254802a2a780020e027c,
   0x540026255802532a0023125802206b8021093801f1d5800908f800834d8005000300125500351d80003254802a2a780020e027c,
   0x540026255802532a0023125802206b8021093801f1d5800908f800834d8005000300125500351d80003254802a2a780020e027c,
   0x540026255802532a0023125802206b8021093801f1d5800908f800834d8005000300125500351d80003254802a2a780020e027c,
   0x5b00262aa002532a8023126002206d002109e001f1d78009096800834f800500030012a980351d900032a9002a2c300020e027c,
   0x5b00262aa002532a8023126002206d002109e001f1d78009096800834f800500030012a980351d900032a9002a2c300020e027c,
   0x5b00262aa002532a8023126002206d002109e001f1d78009096800834f800500030012a980351d900032a9002a2c300020e027c,
   0x5b00262aa002532a8023126002206d002109e001f1d78009096800834f800500030012a980351d900032a9002a2c300020e027c,
   0x5b00262aa002532a8023126002206d002109e001f1d78009096800834f800500030012a980351d900032a9002a2c300020e027c,
   0x5b00262aa002532a8023126002206d002109e001f1d78009096800834f800500030012a980351d900032a9002a2c300020e027c,
   0x5b00262aa002532a8023126002206d002109e001f1d78009096800834f800500030012a980351d900032a9002a2c300020e027c,
   0x5880262458025327002311b00220638021097001f1d6800909300083418005000300124500351d10003244802a28080020e027c,
   0x52802623d002532a8023126002206d002109e001f1d78009096800834f8005000300121500351d90003214802a2c300020e027c,
   0x540026255802532a0023125802206b8021093801f1d5800908f800834d8005000300125500351d80003254802a2a780020e027c,
   0x51002623400253298023124802206a00210a1001f1d4000909d800834b8005000300123380351d70003233002a26400020e027c,
   0x540026255802532a0023125802206b8021093801f1d5800908f800834d8005000300125500351d80003254802a2a780020e027c,
   0x55002622b802532880231220022067002109a801f1d8800909a00083478005000300122b00351d4800322a802a24400020e027c,
   0x540026255802532a0023125802206b8021093801f1d5800908f800834d8005000300125500351d80003254802a2a780020e027c,
   0x5b00262aa002532a8023126002206d002109e001f1d78009096800834f800500030012a980351d900032a9002a2c300020e027c,
   0x540026255802532a0023125802206b8021093801f1d5800908f800834d8005000300125500351d80003254802a2a780020e027c,
   0x52002623c0025328002311f80220658021089001f1d0800908880083438005000300123b80351d3000323b002a29180020e027c]

/-- Where states 544 to 575 go after a phrase. -/
def gotos17 : List Nat :=
  [0x3cc0f37f0d6cf0c4820ba7f096c7034a21107, 0x3cf0f3880d6d20c4ea0ba8e096d0034c81107,
   0x3cf0f3880d6d30c4ea0ba8e096d0034c81107, 0x3cf0f3880d6d40c4ea0ba8e096d0034c81107,
   0x3cf0f3880d6d50c4ea0ba8e096d0034c81107, 0x3cf0f3880d6d60c4ea0ba8e096d0034c81107,
   0x3cf0f3880d6d70c4ea0ba8e096d0034c81107, 0x3cf0f3880d6d80c4ea0ba8e096d0034c81107,
   0x4040f3be0d6b70c53e0ba9a096b50354f1107, 0x4040f3be0d6b80c53e0ba9a096b50354f1107,
   0x4040f3be0d6b90c53e0ba9a096b50354f1107, 0x4040f3be0d6ba0c53e0ba9a096b50354f1107,
   0x4040f3be0d6bb0c53e0ba9a096b50354f1107, 0x4040f3be0d6bc0c53e0ba9a096b50354f1107,
   0x4040f3be0d6bd0c53e0ba9a096b50354f1107, 0x4650f3d20d6db0c5830baa6096d9035861107,
   0x4650f3d20d6dc0c5830baa6096d9035861107, 0x4650f3d20d6dd0c5830baa6096d9035861107,
   0x4650f3d20d6de0c5830baa6096d9035861107, 0x4650f3d20d6df0c5830baa6096d9035861107,
   0x4650f3d20d6e00c5830baa6096d9035861107, 0x4650f3d20d6e10c5830baa6096d9035861107,
   0x3d80f3bc0d6f70c5480ba44096f6035011107, 0x4650f4070d7790c5830baa6094a8076d9035860108,
   0x4040f3be0d77e0c53e0ba9a096b50354f1107, 0x3cf0f3880d7850c4ea0ba8e096d0034c81107,
   0x4040f3be0d7870c53e0ba9a096b50354f1107, 0x3c90f3760d72a0c4ca0ba6d0967a034881107,
   0x4040f3be0d78c0c53e0ba9a096b50354f1107, 0x4650f3d20d7940c5830baa6096d9035861107,
   0x4040f3be0d7950c53e0ba9a096b50354f1107, 0x3db0f3bd0d6ab0c4fe0ba5b096aa035231107]

/-- What states 576 to 607 do with a token. -/
def moves18 : List Nat :=
  [0x53802622000253298023124802206a00210a1001f1d4000909d800834b8005000300121f80351d7000321f002a26400020e027c,
   0x53002621d8025329002312380220688021090001f1d980090a080083498005000300121d00351d6000321c802a25100020e027c,
   0x51002623400253298023124802206a00210a1001f1d4000909d800834b8005000300123380351d70003233002a26400020e027c,
   0x5b00262aa002532a8023126002206d002109e001f1d78009096800834f800500030012a980351d900032a9002a2c300020e027c,
   0x55002622b802532880231220022067002109a801f1d8800909a00083478005000300122b00351d4800322a802a24400020e027c,
   0x5600262be002532a0023125802206b8021093801f1d5800908f800834d800500030012bd80351d800032bd002a2a780020e027c,
   0x52002623c0025328002311f80220658021089001f1d0800908880083438005000300123b80351d3000323b002a29180020e027c,
   0x53002621d8025329002312380220688021090001f1d980090a080083498005000300121d00351d6000321c802a25100020e027c,
   0x5280262bf802532a8023126002206d002109e001f1d78009096800834f800500030012bf00351d900032be802a2c300020e027c,
   0x51002623400253298023124802206a00210a1001f1d4000909d800834b8005000300123380351d70003233002a26400020e027c,
   0x5380262c100253298023124802206a00210a1001f1d4000909d800834b800500030012c080351d700032c0002a26400020e027c,
   0x540026255802532a0023125802206b8021093801f1d5800908f800834d8005000300125500351d80003254802a2a780020e027c,
   0x5b00262aa002532a8023126002206d002109e001f1d78009096800834f800500030012a980351d900032a9002a2c300020e027c,
   0x52002623c0025328002311f80220658021089001f1d0800908880083438005000300123b80351d3000323b002a29180020e027c,
   0x52002623c0025328002311f80220658021089001f1d0800908880083438005000300123b80351d3000323b002a29180020e027c,
   0x52002623c0025328002311f80220658021089001f1d0800908880083438005000300123b80351d3000323b002a29180020e027c,
   0x52002623c0025328002311f80220658021089001f1d0800908880083438005000300123b80351d3000323b002a29180020e027c,
   0x52002623c0025328002311f80220658021089001f1d0800908880083438005000300123b80351d3000323b002a29180020e027c,
   0x52002623c0025328002311f80220658021089001f1d0800908880083438005000300123b80351d3000323b002a29180020e027c,
   0x52002623c0025328002311f80220658021089001f1d0800908880083438005000300123b80351d3000323b002a29180020e027c,
   0x52002623c0025328002311f80220658021089001f1d0800908880083438005000300123b80351d3000323b002a29180020e027c,
   0x52002623c0025328002311f80220658021089001f1d0800908880083438005000300123b80351d3000323b002a29180020e027c,
   0x52002623c0025328002311f80220658021089001f1d0800908880083438005000300123b80351d3000323b002a29180020e027c,
   0x52002623c0025328002311f80220658021089001f1d0800908880083438005000300123b80351d3000323b002a29180020e027c,
   0x52002623c0025328002311f80220658021089001f1d0800908880083438005000300123b80351d3000323b002a29180020e027c,
   0x77801f011902d000300101dd02b012102901290690609a6, 0x1dd031011902d0003001012103001290620509a6,
   0x51d00640fa806a0003001013106304027c, 0x51d00640fa806a0003001013906304027c,
   0x51d00640fa806a0003001014106304027c, 0x1e50650003001014906b030aa8,
   0x1ed0670003001015106b0302af]

/-- Where states 576 to 607 go after a phrase. -/
def gotos18 : List Nat :=
  [0x3cf0f4080d7930c4ea0ba8e094c9076d0034c80108, 0x3cc0f37f0d7330c4820ba7f096c7034a21107,
   0x3cf0f3880d6c60c4ea0ba8e096d0034c81107, 0x4650f3d20d7a40c5830baa6096d9035861107,
   0x3c90f3760d67b0c4ca0ba6d0967a034881107, 0x4040f3be0d74b0c53e0ba9a095b3076b50354f0108,
   0x3db0f3bd0d8120c4fe0ba5b096aa035231107, 0x3cc0f37f0d6c80c4820ba7f096c7034a21107,
   0x4650f3d20d7790c5830baa6095b4076d9035860108, 0x3cf0f3880d6d10c4ea0ba8e096d0034c81107,
   0x3cf0f3880d7930c4ea0ba8e095b5076d0034c80108, 0x4040f3be0d6b60c53e0ba9a096b50354f1107,
   0x4650f3d20d6da0c5830baa6096d9035861107, 0x3db0f3bd0d81b0c4fe0ba5b096aa035231107,
   0x3db0f3bd0d81d0c4fe0ba5b096aa035231107, 0x3db0f3bd0d81f0c4fe0ba5b096aa035231107,
   0x3db0f3bd0d8210c4fe0ba5b096aa035231107, 0x3db0f3bd0d8220c4fe0ba5b096aa035231107,
   0x3db0f3bd0d8230c4fe0ba5b096aa035231107, 0x3db0f3bd0d8240c4fe0ba5b096aa035231107,
   0x3db0f3bd0d8250c4fe0ba5b096aa035231107, 0x3db0f3bd0d8260c4fe0ba5b096aa035231107,
   0x3db0f3bd0d8280c4fe0ba5b096aa035231107, 0x3db0f3bd0d8290c4fe0ba5b096aa035231107,
   0x3db0f3bd0d82a0c4fe0ba5b096aa035231107, 0x7c01301, 0x0, 0x25c2e2d92a2b32d03,
   0x2762e2e62a2b32d03, 0x2602e2e72a2b32d03, 0x25e2901, 0x25f2c01]

/-- What states 608 to 639 do with a token. -/
def moves19 : List Nat :=
  [0x51d00640fa806a0003001015906304027c, 0x55e006412b806a0003001013106804037c,
   0x55e006412b806a0003001013906804037c, 0x55e006412b806a0003001014106804037c,
   0x1f50650003001014906c030ba8, 0x1fd0670003001015106c0303af,
   0x55e006412b806a0003001015906804037c, 0x16d031001902d0003001002103000290620509a6,
   0x16d031001902d0003001002103000290620509a6, 0x1902d0003001016d02b002102900290620509a6,
   0x1902d0003001016d02b002102900290620509a6, 0x2050310003001012103001610620409b6,
   0x1dd0310003001012103001290620409b6, 0x20d0310003001016903001710620409b6,
   0x300101d506d003103a0309b6, 0x300101d506d003103a0309b6, 0x3001021506d017903a0309b6,
   0x21d0310003001018103001890620409b6, 0x3001019106e0209b6, 0x3001019906e0209b6,
   0x300101a106e0209b6, 0x300101a906e0209b6, 0x22506a000300101b106f03027c, 0x300101b906e0209b6,
   0x22d06a000300101b107003037c, 0x300101c1073021507201790710409b6,
   0x3001020502b012102901610620409b6, 0x300101dd02b012102901290620409b6,
   0x3001020d02b016902901710620409b6, 0x3001021d02b018102901890620409b6, 0x300101c907402027c,
   0x300101d107402027c]

/-- Where states 608 to 639 go after a phrase. -/
def gotos19 : List Nat :=
  [0x2762e2f52a2b32d03, 0x2622e3122a2be2d03, 0x2782e31f2a2be2d03, 0x2662e3202a2be2d03, 0x2642901,
   0x2652c01, 0x2782e32e2a2be2d03, 0x0, 0x0, 0x0, 0x0, 0x0, 0x0, 0x0, 0x0, 0x0, 0x0, 0x0, 0x0,
   0x0, 0x0, 0x0, 0x2762e2b32d02, 0x0, 0x2782e2be2d02, 0x0, 0x0, 0x0, 0x0, 0x0, 0x0, 0x0]

/-- What states 640 to 671 do with a token. -/
def moves20 : List Nat :=
  [0x300101d907402027c, 0x300101e1075020aa8, 0x300101e9075020aa8, 0x300101f1075020aa8,
   0x300101f90760202af, 0x30010201075020aa8, 0x300102090760202af, 0x30010211075020aa8,
   0x300102190760202af, 0x30010221075020aa8, 0x300102290760202af, 0x3001023107402027c,
   0x3001023907402027c, 0x300101e1077020ba8, 0x300101e9077020ba8, 0x300101f1077020ba8,
   0x300101f90780203af, 0x30010201077020ba8, 0x300102090780203af, 0x30010211077020ba8,
   0x300102190780203af, 0x30010221077020ba8, 0x300102290780203af, 0x300101c907902037c,
   0xae00263098025065802106e001f1da800906a80083438005000300130880351d30003308002a003907a29180020d067c,
   0x300101d107902037c,
   0xae00263098025065802106e001f1da800906a80083438005000300130880351d30003308002a004107a29180020d067c,
   0x30010231075020aa8, 0x300101d907902037c, 0x30010239075020aa8, 0x300101c9075020aa8,
   0x300101d1075020aa8]

/-- Where states 640 to 671 go after a phrase. -/
def gotos20 : List Nat :=
  [0x0, 0x0, 0x0, 0x0, 0x0, 0x0, 0x0, 0x0, 0x0, 0x0, 0x0, 0x0, 0x0, 0x0, 0x0, 0x0, 0x0, 0x0, 0x0,
   0x0, 0x0, 0x0, 0x0, 0x0, 0x3db0f6430d6120b8110a6130780d065230107, 0x0,
   0x3db0f6430d6120b8110a6130780d065230107, 0x0, 0x0, 0x0, 0x0, 0x0]

/-- What states 672 to 703 do with a token. -/
def moves21 : List Nat :=
  [0x300102310760202af, 0x300101d9075020aa8, 0x300102390760202af, 0x300101c90760202af,
   0x300101d10760202af, 0x3001023107902037c, 0x300101d90760202af, 0x3001023907902037c,
   0x300101c9077020ba8, 0x300101d1077020ba8, 0x30010231077020ba8, 0x300101d9077020ba8,
   0x30010239077020ba8, 0x300101c90780203af, 0x300101d10780203af, 0x300102310780203af,
   0x300101d90780203af, 0x300102390780203af, 0x51d00640003001024106303027c, 0x3001024907b02027c,
   0x51d00640003001025106303027c, 0x51880660003001025906303027c, 0x51d00640003001026106303027c,
   0x51880660003001026906303027c, 0x51d00640003001027106303027c, 0x51d00640003001027906303027c,
   0x3001028107b02027c, 0x51d00640003001028906303027c, 0x3001029107b02027c,
   0x55e00640003001024106803037c, 0x3001024907c02037c, 0x55e00640003001025106803037c]

/-- Where states 672 to 703 go after a phrase. -/
def gotos21 : List Nat :=
  [0x0, 0x0, 0x0, 0x0, 0x0, 0x0, 0x0, 0x0, 0x0, 0x0, 0x0, 0x0, 0x0, 0x0, 0x0, 0x0, 0x0, 0x0,
   0x2de2a01, 0x0, 0x2ec2a01, 0x2ee2b01, 0x2f82a01, 0x2fa2b01, 0x2fe2a01, 0x3012a01, 0x0,
   0x3042a01, 0x0, 0x3172a01, 0x0, 0x3252a01]

/-- What states 704 to 735 do with a token. -/
def moves22 : List Nat :=
  [0x55c80660003001025906803037c, 0x55e00640003001026106803037c, 0x55c80660003001026906803037c,
   0x55e00640003001027106803037c, 0x55e00640003001027906803037c, 0x3001028107c02037c,
   0x55e00640003001028906803037c, 0x3001029107c02037c,
   0xd4002631980250658021069801f1db0009461805506600083438005000300131280351d30003312002a29180020d077c,
   0x3001029907d02027c, 0x300102a107d02027c, 0x3001029907e02037c, 0x300102a107e02037c,
   0xd4002631980250658021069801f1db000947e005506600083438005000300131280351d30003312002a29180020d077c,
   0xc9002631380250658021065001f1d0800906280083438005000300131000351d3000330f802a29180020c027c,
   0xc9002631380250658021065001f1d0800906280083438005000300131000351d3000330f802a29180020c027c,
   0x300102a906302027c,
   0xd4002631980250658021069801f1db00090660008343800502b1055000300131280351d30003312002a29180020d077c,
   0xc9002631380250658021065001f1d0800906280083438005000300131000351d3000330f802a29180020c027c,
   0xd4002631980250658021069801f1db00090660008343800502b9055000300131280351d30003312002a29180020d077c,
   0xc9002631380250658021065001f1d0800906280083438005000300131000351d3000330f802a29180020c027c,
   0x300102c106302027c, 0x3001010906302027c, 0x300102c906302027c, 0x300102d106302027c,
   0x300102d906302027c, 0x300102e106302027c, 0x300102e906302027c, 0x300102f106302027c,
   0x300102f906302027c, 0x3001030106302027c, 0x3001025906302027c]

/-- Where states 704 to 735 go after a phrase. -/
def gotos22 : List Nat :=
  [0x3272b01, 0x3312a01, 0x3332b01, 0x3372a01, 0x33a2a01, 0x0, 0x33d2a01, 0x0,
   0x3db0f63d0d6320b8ad0aa111a633079dc065230108, 0x0, 0x0, 0x0, 0x0,
   0x3db0f63d0d6320b8ad0aa451a633079dc065230108, 0x3db0fa140e63b0d6260b8b00a62707646065230108,
   0x3db0fa250e63b0d6260b8be0a62707646065230108, 0x0, 0x3db0f63d0d6320b9e10a633079dc065230107,
   0x3db0fa2f0e63b0d6260b8cd0a62707646065230108, 0x3db0f63d0d6320b9e10a633079dc065230107,
   0x3db0fa390e63b0d6260b8dd0a62707646065230108, 0x0, 0x0, 0x0, 0x0, 0x0, 0x0, 0x0, 0x0, 0x0, 0x0,
   0x0]

/-- What states 736 to 767 do with a token. -/
def moves23 : List Nat :=
  [0x3001011106302027c, 0x3001030906302027c, 0x3001031106302027c, 0x3001031906302027c,
   0x3001032106302027c, 0x3001032906302027c, 0x3001033106302027c, 0x3001033906302027c,
   0x3001034106302027c, 0x3001034906302027c, 0x3001035106302027c, 0x3001035906302027c,
   0x3001036106302027c, 0x3001036906302027c, 0x3001037106302027c, 0x3001026906302027c,
   0x3001037906302027c, 0x3001038106302027c, 0x3001038906302027c, 0x3001039106302027c,
   0x3001039906302027c, 0x300103a106302027c, 0x300103a906302027c, 0x300103b106302027c,
   0x300103b906302027c, 0x300103c106302027c, 0x300103c906302027c, 0x300103d106302027c,
   0x300103d906302027c, 0x300103e106302027c, 0x300103e906302027c, 0x300103f106302027c]

/-- Where states 736 to 767 go after a phrase. -/
def gotos23 : List Nat :=
  [0x0, 0x0, 0x0, 0x0, 0x0, 0x0, 0x0, 0x0, 0x0, 0x0, 0x0, 0x0, 0x0, 0x0, 0x0, 0x0, 0x0, 0x0, 0x0,
   0x0, 0x0, 0x0, 0x0, 0x0, 0x0, 0x0, 0x0, 0x0, 0x0, 0x0, 0x0, 0x0]

/-- What states 768 to 799 do with a token. -/
def moves24 : List Nat :=
  [0x300103f906302027c, 0x3001040106302027c, 0x3001040906302027c, 0x3001041106302027c,
   0x3001041906302027c, 0x3001042106302027c, 0x3001042906302027c, 0x3001043106302027c,
   0x3001043906302027c,
   0xc9002631380250658021065001f1d0800906280083438005003907f000300131000351d3000330f802a29180020d027c,
   0x300102a906802037c,
   0xd6002631c0025065802106c801f1db80090690008343800502b1054000300131680351d30003316002a29180020d087c,
   0xc9002631380250658021065001f1d0800906280083438005004107f000300131000351d3000330f802a29180020d027c,
   0xd6002631c0025065802106c801f1db80090690008343800502b9054000300131680351d30003316002a29180020d087c,
   0x300102c106802037c, 0x3001010906802037c, 0x300102c906802037c, 0x300102d106802037c,
   0x300102d906802037c, 0x300102e106802037c, 0x300102e906802037c, 0x300102f106802037c,
   0x300102f906802037c, 0x3001030106802037c, 0x3001025906802037c, 0x3001011106802037c,
   0x3001030906802037c, 0x3001031106802037c, 0x3001031906802037c, 0x3001032106802037c,
   0x3001032906802037c, 0x3001033106802037c]

/-- Where states 768 to 799 go after a phrase. -/
def gotos24 : List Nat :=
  [0x0, 0x0, 0x0, 0x0, 0x0, 0x0, 0x0, 0x0, 0x0, 0x3db0f63b0d6260b64a0a62707646065230107, 0x0,
   0x3db0f6420d6370b9ed0a638079e9065230107, 0x3db0f63b0d6260b64a0a62707646065230107,
   0x3db0f6420d6370b9ed0a638079e9065230107, 0x0, 0x0, 0x0, 0x0, 0x0, 0x0, 0x0, 0x0, 0x0, 0x0, 0x0,
   0x0, 0x0, 0x0, 0x0, 0x0, 0x0, 0x0]

/-- What states 800 to 831 do with a token. -/
def moves25 : List Nat :=
  [0x3001033906802037c, 0x3001034106802037c, 0x3001034906802037c, 0x3001035106802037c,
   0x3001035906802037c, 0x3001036106802037c, 0x3001036906802037c, 0x3001037106802037c,
   0x3001026906802037c, 0x3001037906802037c, 0x3001038106802037c, 0x3001038906802037c,
   0x3001039106802037c, 0x3001039906802037c, 0x300103a106802037c, 0x300103a906802037c,
   0x300103b106802037c, 0x300103b906802037c, 0x300103c106802037c, 0x300103c906802037c,
   0x300103d106802037c, 0x300103d906802037c, 0x300103e106802037c, 0x300103e906802037c,
   0x300103f106802037c, 0x300103f906802037c, 0x3001040106802037c, 0x3001040906802037c,
   0x3001041106802037c, 0x3001041906802037c, 0x3001042106802037c, 0x3001042906802037c]

/-- Where states 800 to 831 go after a phrase. -/
def gotos25 : List Nat :=
  [0x0, 0x0, 0x0, 0x0, 0x0, 0x0, 0x0, 0x0, 0x0, 0x0, 0x0, 0x0, 0x0, 0x0, 0x0, 0x0, 0x0, 0x0, 0x0,
   0x0, 0x0, 0x0, 0x0, 0x0, 0x0, 0x0, 0x0, 0x0, 0x0, 0x0, 0x0, 0x0]

/-- What states 832 to 863 do with a token. -/
def moves26 : List Nat :=
  [0x3001043106802037c, 0x3001043906802037c,
   0xc9002631380250658021065001f1d0800906280083438005000300131000351d3000330f802a29180020c027c,
   0xc9002631380250658021065001f1d0800906280083438005000300131000351d3000330f802a29180020c027c,
   0xc9002631380250658021065001f1d0800906280083438005000300131000351d3000330f802a29180020c027c,
   0xc9002631380250658021065001f1d0800906280083438005000300131000351d3000330f802a29180020c027c,
   0xc9002631380250658021065001f1d0800906280083438005000300131000351d3000330f802a29180020c027c,
   0xc9002631380250658021065001f1d0800906280083438005000300131000351d3000330f802a29180020c027c,
   0x5d80262d40025065802106b001f1da00090678008343800500030012d300351d300032d2802a29180020c027c,
   0xc9002631380250658021065001f1d0800906280083438005000300131000351d3000330f802a29180020c027c,
   0xd4002631980250658021069801f1db000906600083438005000300131280351d30003312002a29180020c027c,
   0xd6002631c0025065802106c801f1db800906900083438005000300131680351d30003316002a29180020c027c,
   0xae00263098025065802106e001f1da800906a80083438005000300130880351d30003308002a29180020c027c,
   0x5a00262ba0025065802106e801f1ac800906c0008343800500030012a700351d300032a6802a29180020c027c,
   0xd5802631b00250658021089001f1d080090888008343800500030013158035044102b1d30003315002a29180020d027c,
   0xbe802630e80250658021089001f1d0800908880083438005000300130e0035044104d1d3000330d802a29180020d077c,
   0x4f00263068022060002108c801f1d2800908c00083390005000300120580351ad0003205002a20480390c027c,
   0x5c802630680220638021097001f1d6800909300083418005000300128500351d10003284802a28080390c027c,
   0x58002630680220658021089001f1d0800908880083438005000300129300351d30003292802a29180390c027c,
   0x5900263068022067002109a801f1d8800909a00083478005000300124680351d48003246002a24400390c027c,
   0x59802630680220688021090001f1d980090a080083498005000300125700351d60003256802a25100390c027c,
   0x558026306802206a00210a1001f1d4000909d800834b8005000300126600351d70003265802a26400390c027c,
   0x5b8026306802206b8021093801f1d5800908f800834d800500030012ab00351d800032aa802a2a780390c027c,
   0x5d0026306802206d002109e001f1d78009096800834f800500030012c500351d900032c4802a2c300390c027c,
   0x1a800881b200871b1808650f00221b100850dd001f1b0002e0770008532008400030011b0802c1af00831ae80821af808104490800f09b7,
   0x4e002613800250658021089001f1d0800908880083438005000300113780351d30003137002a29180020c027c,
   0x4f0026060002108c801f1d2800908c00083390005000300120580351ad0003205002a20480390b027c,
   0x5700262bc00250658021089001f1d0800908880083438005000300128300351d30003282802a29180020c027c,
   0xcc002631180250658021089001f1d0800908880083438005000300131100351d30003310802a29180020c027c,
   0x4f0026060002108c801f1d2800908c00083390005000300120580351ad0003205002a20480390b027c,
   0x4f0026060002108c801f1d2800908c00083390005000300120580351ad0003205002a20480390b027c,
   0x4f0026060002108c801f1d2800908c00083390005000300120580351ad0003205002a20480390b027c]

/-- Where states 832 to 863 go after a phrase. -/
def gotos26 : List Nat :=
  [0x0, 0x0, 0x3db0fab70e63b0d6260b9990a62707646065230108,
   0x3db0fabb0e63b0d6260b99a0a62707646065230108, 0x3db0fabf0e63b0d6260b99f0a62707646065230108,
   0x3db0fac00e63b0d6260b9a00a62707646065230108, 0x3db0fac60e63b0d6260b9a10a62707646065230108,
   0x3db0fac90e63b0d6260b9a20a62707646065230108, 0x3db0f63e0d5a70b64a0a5a807646065230107,
   0x3db0f63b0d6260b64a0a62707646065230107, 0x3db0f63d0d6320b9e10a633079dc065230107,
   0x3db0f6420d6370b9ed0a638079e9065230107, 0x3db0f6430d6120b8110a6130780d065230107,
   0x3db0f61e0d5730b6310a5740762e065230107, 0x3db0f63b0d4fe0b636075230105,
   0x3db0f63d0d4fe0b61d075230105, 0x3b90f3c30d4240b4091104, 0x3d80f42f0d5480b5011104,
   0x3db0f4440d4fe0b5231104, 0x3c90f3e20d4ca0b4881104, 0x3cc0f3ee0d4820b4a21104,
   0x3cf0f3f90d4ea0b4c81104, 0x4040f45f0d53e0b54f1104, 0x4650f4f20d5830b5861104,
   0x5f63135f3040d2f03, 0x3db0f61e0d4fe0b270075230105, 0x3b90f3bf0d4240b4091104,
   0x3db0f63b0d4fe0b524075230105, 0x3db0f63b0d4fe0b623075230105, 0x3b90f3c10d4240b4091104,
   0x3b90f3c20d4240b4091104, 0x3b90f3c30d4240b4091104]

/-- What states 864 to 895 do with a token. -/
def moves27 : List Nat :=
  [0x4f0026060002108c801f1d2800908c00083390005000300120580351ad0003205002a20480390b027c,
   0x4f0026060002108c801f1d2800908c00083390005000300120580351ad0003205002a20480390b027c,
   0x4f0026060002108c801f1d2800908c00083390005000300120580351ad0003205002a20480390b027c,
   0x4f0026060002108c801f1d2800908c00083390005000300120580351ad0003205002a20480390b027c,
   0x4f0026060002108c801f1d2800908c00083390005000300120580351ad0003205002a20480390b027c,
   0x4e002613c80250658021089001f1d0800908880083438005000300113780351d30003137002a29180020c027c,
   0x5c80260638021097001f1d6800909300083418005000300128500351d10003284802a28080390b027c,
   0x5c80260638021097001f1d6800909300083418005000300128500351d10003284802a28080390b027c,
   0x5c80260638021097001f1d6800909300083418005000300128500351d10003284802a28080390b027c,
   0x5c80260638021097001f1d6800909300083418005000300128500351d10003284802a28080390b027c,
   0x5c80260638021097001f1d6800909300083418005000300128500351d10003284802a28080390b027c,
   0x5c80260638021097001f1d6800909300083418005000300128500351d10003284802a28080390b027c,
   0x5c80260638021097001f1d6800909300083418005000300128500351d10003284802a28080390b027c,
   0x5c80260638021097001f1d6800909300083418005000300128500351d10003284802a28080390b027c,
   0x5800260658021089001f1d0800908880083438005000300129300351d30003292802a29180390b027c,
   0x5800260658021089001f1d0800908880083438005000300129300351d30003292802a29180390b027c,
   0x5800260658021089001f1d0800908880083438005000300129300351d30003292802a29180390b027c,
   0x5800260658021089001f1d0800908880083438005000300129300351d30003292802a29180390b027c,
   0x5800260658021089001f1d0800908880083438005000300129300351d30003292802a29180390b027c,
   0x5800260658021089001f1d0800908880083438005000300129300351d30003292802a29180390b027c,
   0x5800260658021089001f1d0800908880083438005000300129300351d30003292802a29180390b027c,
   0x5800260658021089001f1d0800908880083438005000300129300351d30003292802a29180390b027c,
   0x1a980881bf00871be808650f00221be00850de001f1bd002e0828008543808400030011bd802c1bc00831bb80821bc808104490890f0cb7,
   0x590026067002109a801f1d8800909a00083478005000300124680351d48003246002a24400390b027c,
   0x590026067002109a801f1d8800909a00083478005000300124680351d48003246002a24400390b027c,
   0x590026067002109a801f1d8800909a00083478005000300124680351d48003246002a24400390b027c,
   0x590026067002109a801f1d8800909a00083478005000300124680351d48003246002a24400390b027c,
   0x590026067002109a801f1d8800909a00083478005000300124680351d48003246002a24400390b027c,
   0x590026067002109a801f1d8800909a00083478005000300124680351d48003246002a24400390b027c,
   0x590026067002109a801f1d8800909a00083478005000300124680351d48003246002a24400390b027c,
   0x590026067002109a801f1d8800909a00083478005000300124680351d48003246002a24400390b027c,
   0x1aa00881c380871c3008650f00221c280850de801f1c1802e083000854a008400030011c2002c1c080831c000821c10081044908a0f0db7]

/-- Where states 864 to 895 go after a phrase. -/
def gotos27 : List Nat :=
  [0x3b90f3c40d4240b4091104, 0x3b90f3c50d4240b4091104, 0x3b90f3c60d4240b4091104,
   0x3b90f3c70d4240b4091104, 0x3b90f3c80d4240b4091104, 0x3db0f61e0d4fe0b270075230105,
   0x3d80f42d0d5480b5011104, 0x3d80f42e0d5480b5011104, 0x3d80f42f0d5480b5011104,
   0x3d80f4300d5480b5011104, 0x3d80f4310d5480b5011104, 0x3d80f4320d5480b5011104,
   0x3d80f4330d5480b5011104, 0x3d80f4340d5480b5011104, 0x3db0f4420d4fe0b5231104,
   0x3db0f4430d4fe0b5231104, 0x3db0f4440d4fe0b5231104, 0x3db0f4450d4fe0b5231104,
   0x3db0f4460d4fe0b5231104, 0x3db0f4470d4fe0b5231104, 0x3db0f4480d4fe0b5231104,
   0x3db0f4490d4fe0b5231104, 0x600313793048f2f03, 0x3c90f3e00d4ca0b4881104,
   0x3c90f3e10d4ca0b4881104, 0x3c90f3e20d4ca0b4881104, 0x3c90f3e30d4ca0b4881104,
   0x3c90f3e40d4ca0b4881104, 0x3c90f3e50d4ca0b4881104, 0x3c90f3e60d4ca0b4881104,
   0x3c90f3e70d4ca0b4881104, 0x60631382304b02f03]

/-- What states 896 to 927 do with a token. -/
def moves28 : List Nat :=
  [0x5980260688021090001f1d980090a080083498005000300125700351d60003256802a25100390b027c,
   0x5980260688021090001f1d980090a080083498005000300125700351d60003256802a25100390b027c,
   0x5980260688021090001f1d980090a080083498005000300125700351d60003256802a25100390b027c,
   0x5980260688021090001f1d980090a080083498005000300125700351d60003256802a25100390b027c,
   0x5980260688021090001f1d980090a080083498005000300125700351d60003256802a25100390b027c,
   0x5980260688021090001f1d980090a080083498005000300125700351d60003256802a25100390b027c,
   0x5980260688021090001f1d980090a080083498005000300125700351d60003256802a25100390b027c,
   0x5980260688021090001f1d980090a080083498005000300125700351d60003256802a25100390b027c,
   0x1aa80881c800871c7808650f00221c700850df001f1c6002e0838008550008400030011c6802c1c500831c480821c58081044908b0f0db7,
   0x55802606a00210a1001f1d4000909d800834b8005000300126600351d70003265802a26400390b027c,
   0x55802606a00210a1001f1d4000909d800834b8005000300126600351d70003265802a26400390b027c,
   0x55802606a00210a1001f1d4000909d800834b8005000300126600351d70003265802a26400390b027c,
   0x55802606a00210a1001f1d4000909d800834b8005000300126600351d70003265802a26400390b027c,
   0x55802606a00210a1001f1d4000909d800834b8005000300126600351d70003265802a26400390b027c,
   0x55802606a00210a1001f1d4000909d800834b8005000300126600351d70003265802a26400390b027c,
   0x55802606a00210a1001f1d4000909d800834b8005000300126600351d70003265802a26400390b027c,
   0x55802606a00210a1001f1d4000909d800834b8005000300126600351d70003265802a26400390b027c,
   0x5b802606b8021093801f1d5800908f800834d800500030012ab00351d800032aa802a2a780390b027c,
   0x5b802606b8021093801f1d5800908f800834d800500030012ab00351d800032aa802a2a780390b027c,
   0x5b802606b8021093801f1d5800908f800834d800500030012ab00351d800032aa802a2a780390b027c,
   0x5b802606b8021093801f1d5800908f800834d800500030012ab00351d800032aa802a2a780390b027c,
   0x5b802606b8021093801f1d5800908f800834d800500030012ab00351d800032aa802a2a780390b027c,
   0x5b802606b8021093801f1d5800908f800834d800500030012ab00351d800032aa802a2a780390b027c,
   0x5b802606b8021093801f1d5800908f800834d800500030012ab00351d800032aa802a2a780390b027c,
   0x5b802606b8021093801f1d5800908f800834d800500030012ab00351d800032aa802a2a780390b027c,
   0x5d002606d002109e001f1d78009096800834f800500030012c500351d900032c4802a2c300390b027c,
   0x5d002606d002109e001f1d78009096800834f800500030012c500351d900032c4802a2c300390b027c,
   0x5d002606d002109e001f1d78009096800834f800500030012c500351d900032c4802a2c300390b027c,
   0x5d002606d002109e001f1d78009096800834f800500030012c500351d900032c4802a2c300390b027c,
   0x5d002606d002109e001f1d78009096800834f800500030012c500351d900032c4802a2c300390b027c,
   0x5d002606d002109e001f1d78009096800834f800500030012c500351d900032c4802a2c300390b027c,
   0x5d002606d002109e001f1d78009096800834f800500030012c500351d900032c4802a2c300390b027c]

/-- Where states 896 to 927 go after a phrase. -/
def gotos28 : List Nat :=
  [0x3cc0f3ec0d4820b4a21104, 0x3cc0f3ed0d4820b4a21104, 0x3cc0f3ee0d4820b4a21104,
   0x3cc0f3ef0d4820b4a21104, 0x3cc0f3f00d4820b4a21104, 0x3cc0f3f10d4820b4a21104,
   0x3cc0f3f20d4820b4a21104, 0x3cc0f3f30d4820b4a21104, 0x6083138b304ce2f03,
   0x3cf0f3f70d4ea0b4c81104, 0x3cf0f3f80d4ea0b4c81104, 0x3cf0f3f90d4ea0b4c81104,
   0x3cf0f3fa0d4ea0b4c81104, 0x3cf0f3fb0d4ea0b4c81104, 0x3cf0f3fc0d4ea0b4c81104,
   0x3cf0f3fd0d4ea0b4c81104, 0x3cf0f3fe0d4ea0b4c81104, 0x4040f45d0d53e0b54f1104,
   0x4040f45e0d53e0b54f1104, 0x4040f45f0d53e0b54f1104, 0x4040f4600d53e0b54f1104,
   0x4040f4610d53e0b54f1104, 0x4040f4620d53e0b54f1104, 0x4040f4630d53e0b54f1104,
   0x4040f4640d53e0b54f1104, 0x4650f4f00d5830b5861104, 0x4650f4f10d5830b5861104,
   0x4650f4f20d5830b5861104, 0x4650f4f30d5830b5861104, 0x4650f4f40d5830b5861104,
   0x4650f4f50d5830b5861104, 0x4650f4f60d5830b5861104]

/-- What states 928 to 959 do with a token. -/
def moves29 : List Nat :=
  [0x5d002606d002109e001f1d78009096800834f800500030012c500351d900032c4802a2c300390b027c,
   0x57002629200250658021089001f1d0800908880083438005000300128300351d30003282802a29180020c027c,
   0x5c80260638021097001f1d6800909300083418005000300128500351d10003284802a28080390b027c,
   0x4f802628780250658021089001f1d0800908880083438005000300121c00351d3000321b802a29180020c027c,
   0xbe002630c00250658021089001f1d0800908880083438005000300130b80351d3000330b002a29180020c027c,
   0x4f802622780250658021089001f1d0800908880083438005000300121c00351d3000321b802a29180020c027c,
   0x5800260658021089001f1d0800908880083438005000300129300351d30003292802a29180390b027c,
   0x5a80262bc80250658021089001f1d080090888008343800500030012c400351d300032c3802a29180020c027c,
   0x50802627480250658021089001f1d0800908880083438005000300125380351d30003253002a29180020c027c,
   0x590026067002109a801f1d8800909a00083478005000300124680351d48003246002a24400390b027c,
   0x5480262a100250658021089001f1d080090888008343800500030012a600351d300032a5802a29180020c027c,
   0x5480262b880250658021089001f1d080090888008343800500030012a600351d300032a5802a29180020c027c,
   0x5980260688021090001f1d980090a080083498005000300125700351d60003256802a25100390b027c,
   0x5480262bb00250658021089001f1d080090888008343800500030012a880351d300032a8002a29180020c027c,
   0x55802606a00210a1001f1d4000909d800834b8005000300126600351d70003265802a26400390b027c,
   0x5a80262d200250658021089001f1d080090888008343800500030012c400351d300032c3802a29180020c027c,
   0x5b802606b8021093801f1d5800908f800834d800500030012ab00351d800032aa802a2a780390b027c,
   0x5a802627e00250658021089001f1d0800908880083438005000300127c80351d3000327c002a29180020c027c,
   0x5d002606d002109e001f1d78009096800834f800500030012c500351d900032c4802a2c300390b027c,
   0x50802627e80250658021089001f1d0800908880083438005000300127d80351d3000327d002a29180020c027c,
   0x5e00262d900250658021089001f1d080090888008343800500030012d880351d300032d8002a29180020c027c,
   0x50802627480250658021089001f1d0800908880083438005000300125380351d30003253002a29180020c027c,
   0x5480262b880250658021089001f1d080090888008343800500030012a600351d300032a5802a29180020c027c,
   0x5a80262d200250658021089001f1d080090888008343800500030012c400351d300032c3802a29180020c027c,
   0x1a800881b200871b1808650f00221b100850ca001f1b0002e077000850e808400030011b0802c1af00831ae80821af8081044908c0f09b7,
   0x33900050003001012908d0304b7, 0x33900050003001045108d0304b7, 0x2350050003001045908d0304b7,
   0x1a880881b680871b6008650f00221b580850dc801f1b4802e0818008526808400030011b5002c1b380831b300821b40081044908e0f0eb7,
   0x1a900881ba80871ba008650f00221b980850dd801f1b8802e082000853b008400030011b9002c1b780831b700821b80081044908f0f0fb7,
   0x1ab00881cc00871cb808650f00221cb00850df801f1ca002e0840008556008400030011ca802c1c900831c880821c9808104490900f0eb7,
   0xdd001f1b0002e07700085320084000300104610910609b7]

/-- Where states 928 to 959 go after a phrase. -/
def gotos29 : List Nat :=
  [0x4650f4f70d5830b5861104, 0x3db0f63b0d4fe0b524075230105, 0x3d80f4270d5480b5011104,
   0x3db0f63c0d4fe0b44f075230105, 0x3db0f63d0d4fe0b618075230105, 0x3db0f63c0d4fe0b44f075230105,
   0x3db0f43c0d4fe0b5231104, 0x3db0f6410d4fe0b5a4075230105, 0x3db0f63f0d4fe0b4e9075230105,
   0x3c90f3de0d4ca0b4881104, 0x3db0f6400d4fe0b571075230105, 0x3db0f6400d4fe0b571075230105,
   0x3cc0f3ea0d4820b4a21104, 0x3db0f63d0d4fe0b576075230105, 0x3cf0f3f40d4ea0b4c81104,
   0x3db0f6410d4fe0b5a4075230105, 0x4040f45a0d53e0b54f1104, 0x3db0f6420d4fe0b4fc075230105,
   0x4650f4eb0d5830b5861104, 0x3db0f6430d4fe0b4fd075230105, 0x3db0f63e0d4fe0b5b2075230105,
   0x3db0f6430d4fe0b4e9075230105, 0x3db0f63d0d4fe0b571075230105, 0x3db0f6420d4fe0b5a4075230105,
   0x5f63135f3040d2f03, 0x3ba3201, 0x3bb3201, 0x3bb3201, 0x60e313683050c2f03, 0x60231370305282f03,
   0x60431393305582f03, 0x40d2f01]

end CellScript.Python.Grammar
