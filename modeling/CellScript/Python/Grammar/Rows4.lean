set_option autoImplicit false

/-! # Rows of the automaton, part 4 of 6

One number per state; `Grammar.Automaton` says how it is read. -/

namespace CellScript.Python.Grammar

/-- What states 1440 to 1471 do with a token. -/
def moves45 : List Nat :=
  [0x300101990d9020cb7, 0x300101a10d9020cb7, 0x300101a90d9020cb7, 0x300101b90d9020cb7,
   0x3001021506d01790e4030cb7, 0x3001002906d0021053030fb6, 0x3001002906d0021053030fb6,
   0x3001016106d0121053030fb6, 0x3001012906d0121053030fb6, 0x3001017106d0169053030fb6,
   0x3001018906d0181053030fb6, 0x300101910ee020fb6, 0x300101990ee020fb6, 0x300101a10ee020fb6,
   0x300101a90ee020fb6, 0x300101b90ee020fb6, 0x3001003105301d506d030fb6,
   0x3001003105301d506d030fb6, 0x30010179053021506d030fb6, 0x300102150dc020eb7,
   0x300102150be020cb7, 0x300102150c8020db7,
   0x36000252f080214e600f22dc801f036805f12300122dc00083438005000300139280f14e580f03b300ef0c0296,
   0x36000252f080214e600f22dc801f038805f12300122dc00083438005000300139280f14e580f03b300ef0c0296,
   0x38080252f300214fb80f22e1001f3e880552e0800834d800500030013c500f14fb00f03f900ef0b0789,
   0x38280252f580214fd80f23e980542e5801f2e5000834f800500030013cc80f14fd00f040180ef0b0889,
   0x38080252f300214fb80f22e1001f3f000552e0800834d800500030013c500f14fb00f03f900ef0b0789,
   0x38080252f300214fb80f22e1001f3f100552e0800834d800500030013c500f14fb00f03f900ef0b0789,
   0x38280252f580214fd80f23f180542e5801f2e5000834f800500030013cc80f14fd00f040180ef0b0889,
   0x38080252f300214fb80f22e1001f3f500552e0800834d800500030013c500f14fb00f03f900ef0b0789,
   0x38280252f580214fd80f23f580542e5801f2e5000834f800500030013cc80f14fd00f040180ef0b0889,
   0x38080252f300214fb80f22e1001f3f700552e0800834d800500030013c500f14fb00f03f900ef0b0789]

/-- Where states 1440 to 1471 go after a phrase. -/
def gotos45 : List Nat :=
  [0x0, 0x0, 0x0, 0x0, 0x0, 0x0, 0x0, 0x0, 0x0, 0x0, 0x0, 0x0, 0x0, 0x0, 0x0, 0x0, 0x0, 0x0, 0x0,
   0x0, 0x0, 0x0, 0x6f30fa423784d3676435848347663306, 0x6f30fa433784d3676435848347663306,
   0x72c0f84a367f135910347f23305, 0x7350f84b368023591b348033305, 0x72c0f84c367f135910347f23305,
   0x72c0f912367f135910347f23305, 0x7350f91c368023591b348033305, 0x72c0f912367f135910347f23305,
   0x7350f91c368023591b348033305, 0x72c0f912367f135910347f23305]

/-- What states 1472 to 1503 do with a token. -/
def moves46 : List Nat :=
  [0x38080252f300214fb80f22e1001f3f780552e0800834d800500030013c500f14fb00f03f900ef0b0789,
   0x38080252f300214fb80f22e1001f42a80552e0800834d800500030013c500f14fb00f03f900ef0b0789,
   0x38280252f580214fd80f242b80542e5801f2e5000834f800500030013cc80f14fd00f040180ef0b0889,
   0x38080252f300214fb80f22e1001f42f00552e0800834d800500030013c500f14fb00f03f900ef0b0789,
   0x38080252f300214fb80f22e1001f42f80552e0800834d800500030013c500f14fb00f03f900ef0b0789,
   0x38280252f580214fd80f243000542e5801f2e5000834f800500030013cc80f14fd00f040180ef0b0889,
   0x38080252f300214fb80f22e1001f43380552e0800834d800500030013c500f14fb00f03f900ef0b0789,
   0x38280252f580214fd80f243400542e5801f2e5000834f800500030013cc80f14fd00f040180ef0b0889,
   0x38080252f300214fb80f22e1001f43580552e0800834d800500030013c500f14fb00f03f900ef0b0789,
   0x38080252f300214fb80f22e1001f43600552e0800834d800500030013c500f14fb00f03f900ef0b0789,
   0x38080252f300214fb80f22e1001f43680552e0800834d800500030013c500f14fb00f03f900ef0b0789,
   0x38280252f580214fd80f243780542e5801f2e5000834f800500030013cc80f14fd00f040180ef0b0889,
   0x38080252f300214fb80f22e1001f43b00552e0800834d800500030013c500f14fb00f03f900ef0b0789,
   0x38080252f300214fb80f22e1001f43b80552e0800834d800500030013c500f14fb00f03f900ef0b0789,
   0x38280252f580214fd80f243c00542e5801f2e5000834f800500030013cc80f14fd00f040180ef0b0889,
   0x38080252f300214fb80f22e1001f43f80552e0800834d800500030013c500f14fb00f03f900ef0b0789,
   0x38280252f580214fd80f244000542e5801f2e5000834f800500030013cc80f14fd00f040180ef0b0889,
   0x38080252f300214fb80f22e1001f44180552e0800834d800500030013c500f14fb00f03f900ef0b0789,
   0x38080252f300214fb80f22e1001f44200552e0800834d800500030013c500f14fb00f03f900ef0b0789,
   0x38080252f300214fb80f22e1001f44280552e0800834d800500030013c500f14fb00f03f900ef0b0789,
   0x38280252f580214fd80f244300542e5801f2e5000834f800500030013cc80f14fd00f040180ef0b0889,
   0x38080252f300214fb80f22e1001f44680552e0800834d800500030013c500f14fb00f03f900ef0b0789,
   0x38080252f300214fb80f22e1001f44700552e0800834d800500030013c500f14fb00f03f900ef0b0789,
   0x38280252f580214fd80f244780542e5801f2e5000834f800500030013cc80f14fd00f040180ef0b0889,
   0x38080252f300214fb80f22e1001f44b00552e0800834d800500030013c500f14fb00f03f900ef0b0789,
   0x38280252f580214fd80f244b80542e5801f2e5000834f800500030013cc80f14fd00f040180ef0b0889,
   0x38080252f300214fb80f22e1001f44d00552e0800834d800500030013c500f14fb00f03f900ef0b0789,
   0x38080252f300214fb80f22e1001f44d80552e0800834d800500030013c500f14fb00f03f900ef0b0789,
   0x36000252f080214e600f22dc801f2dc00083438005000300139280f14e580f03b300ef0a0289,
   0x38400252f800214ff80f22ea001f2e9800834b800500030013d500f14ff00f040a00ef0a0289,
   0x36000252f080214e600f22dc801f2dc00083438005000300139280f14e580f03b300ef0a0289,
   0x38080252f300214fb80f22e1001f2e0800834d800500030013c500f14fb00f03f900ef0a0289]

/-- Where states 1472 to 1503 go after a phrase. -/
def gotos46 : List Nat :=
  [0x72c0f912367f135910347f23305, 0x72c0f89f367f135910347f23305, 0x7350f8a0368023591b348033305,
   0x72c0f8a1367f135910347f23305, 0x72c0f912367f135910347f23305, 0x7350f91c368023591b348033305,
   0x72c0f912367f135910347f23305, 0x7350f91c368023591b348033305, 0x72c0f912367f135910347f23305,
   0x72c0f912367f135910347f23305, 0x72c0f8a2367f135910347f23305, 0x7350f8a3368023591b348033305,
   0x72c0f8a4367f135910347f23305, 0x72c0f912367f135910347f23305, 0x7350f91c368023591b348033305,
   0x72c0f912367f135910347f23305, 0x7350f91c368023591b348033305, 0x72c0f912367f135910347f23305,
   0x72c0f912367f135910347f23305, 0x72c0f8a5367f135910347f23305, 0x7350f8a6368023591b348033305,
   0x72c0f8a7367f135910347f23305, 0x72c0f912367f135910347f23305, 0x7350f91c368023591b348033305,
   0x72c0f912367f135910347f23305, 0x7350f91c368023591b348033305, 0x72c0f912367f135910347f23305,
   0x72c0f912367f135910347f23305, 0x6f30f7653676435848347663305, 0x7390f8ee3681335923348143305,
   0x6f30f84d3676435848347663305, 0x72c0f912367f135910347f23305]

/-- What states 1504 to 1535 do with a token. -/
def moves47 : List Nat :=
  [0x38280252f580214fd80f22e5801f2e5000834f800500030013cc80f14fd00f040180ef0a0289,
   0x36080253ea00562f080214e600f22dc801f2dc00083438005000300139280f14ff00f047380ef0b0689,
   0x36080253f280562f080214e600f22dc801f2dc00083438005000300139280f14ff00f047380ef0b0689,
   0x36080253f380562f080214e600f22dc801f2dc00083438005000300139280f14ff00f047380ef0b0689,
   0x36080253f600562f080214e600f22dc801f2dc00083438005000300139280f14ff00f047380ef0b0689,
   0x36080253f680562f080214e600f22dc801f2dc00083438005000300139280f14ff00f047380ef0b0689,
   0x360802542c00562f080214e600f22dc801f2dc00083438005000300139280f14ff00f047380ef0b0689,
   0x360802543100562f080214e600f22dc801f2dc00083438005000300139280f14ff00f047380ef0b0689,
   0x360802543200562f080214e600f22dc801f2dc00083438005000300139280f14ff00f047380ef0b0689,
   0x360802543480562f080214e600f22dc801f2dc00083438005000300139280f14ff00f047380ef0b0689,
   0x360802543500562f080214e600f22dc801f2dc00083438005000300139280f14ff00f047380ef0b0689,
   0x360802543800562f080214e600f22dc801f2dc00083438005000300139280f14ff00f047380ef0b0689,
   0x360802543d00562f080214e600f22dc801f2dc00083438005000300139280f14ff00f047380ef0b0689,
   0x360802543e00562f080214e600f22dc801f2dc00083438005000300139280f14ff00f047380ef0b0689,
   0x360802544080562f080214e600f22dc801f2dc00083438005000300139280f14ff00f047380ef0b0689,
   0x360802544100562f080214e600f22dc801f2dc00083438005000300139280f14ff00f047380ef0b0689,
   0x360802544380562f080214e600f22dc801f2dc00083438005000300139280f14ff00f047380ef0b0689,
   0x360802544880562f080214e600f22dc801f2dc00083438005000300139280f14ff00f047380ef0b0689,
   0x360802544980562f080214e600f22dc801f2dc00083438005000300139280f14ff00f047380ef0b0689,
   0x360802544c00562f080214e600f22dc801f2dc00083438005000300139280f14ff00f047380ef0b0689,
   0x360802544c80562f080214e600f22dc801f2dc00083438005000300139280f14ff00f047380ef0b0689,
   0x36080252f080214e600f22dc801f2dc00083438005000300139280f14ff00f047380ef0a0289,
   0x1a8008850f002200030011af808105310f30509b6, 0x285088027d0220003001027508105390f30509b6,
   0x36080252f080214e600f22dc801f2dc00083438005000300139280f14e580f03b980ef0a0289,
   0x36080252f080214e600f22dc801f2dc00083438005000300139280f14e580f03ba00ef0a0289,
   0x39680252f300214fb80f22e1001f2e0800834d800500030013c500f14fb00f03fb00ef0a0289,
   0x39680252f300214fb80f22e1001f2e0800834d800500030013c500f14fb00f03fb80ef0a0289,
   0x39b00252f580214fd80f22e5801f2e5000834f800500030013cc80f14fd00f040480ef0a0289,
   0x39b00252f580214fd80f22e5801f2e5000834f800500030013cc80f14fd00f040500ef0a0289,
   0x39d00252f800214ff80f22ea001f2e9800834b800500030013d500f14ff00f040b80ef0a0289,
   0x39d00252f800214ff80f22ea001f2e9800834b800500030013d500f14ff00f040c00ef0a0289]

/-- Where states 1504 to 1535 go after a phrase. -/
def gotos47 : List Nat :=
  [0x7350f91c368023591b348033305, 0x6f30f7d53a8e839764358e73805, 0x6f30f8503a9d039764358e73805,
   0x6f30f8503a9d039764358e73805, 0x6f30f8503a9d039764358e73805, 0x6f30f8503a9d039764358e73805,
   0x6f30f81c3a93c39764358e73805, 0x6f30f8503a9d039764358e73805, 0x6f30f8503a9d039764358e73805,
   0x6f30f8503a9d039764358e73805, 0x6f30f8503a9d039764358e73805, 0x6f30f81e3a95039764358e73805,
   0x6f30f8503a9d039764358e73805, 0x6f30f8503a9d039764358e73805, 0x6f30f8503a9d039764358e73805,
   0x6f30f8503a9d039764358e73805, 0x6f30f8203a96239764358e73805, 0x6f30f8503a9d039764358e73805,
   0x6f30f8503a9d039764358e73805, 0x6f30f8503a9d039764358e73805, 0x6f30f8503a9d039764358e73805,
   0x6f30f8503a9d039764358e73805, 0x5f73135f3002, 0x5f73135f3002, 0x6f30f764357733303,
   0x6f30f764357743303, 0x72c0f7f1357f63303, 0x72c0f7f1357f73303, 0x7350f802358093303,
   0x7350f8023580a3303, 0x7390f813358173303, 0x7390f813358183303]

/-- What states 1536 to 1567 do with a token. -/
def moves48 : List Nat :=
  [0x1a9808850f002200030011bc808105310f4050cb6, 0x295088027d0220003001028d08105390f4050cb6,
   0x1a9008850f002200030011b8008105310f5050fb6, 0x2a5088027d0220003001029d08105390f5050fb6,
   0x1ab008850f002200030011c9808105310f6050eb6, 0x2b5088027d022000300102ad08105390f6050eb6,
   0x1aa008850f002200030011c10081053108a050d7c, 0x2c5088027d022000300102bd081053908a050d7c,
   0x1aa808850f002200030011c58081053108b050d7c, 0x2d5088027d022000300102cd081053908b050d7c,
   0x1ab808850f002200030011cd808105310f7050cb6, 0x2e5088027d022000300102dd08105390f7050cb6,
   0x300105410f802027c, 0x300105490f802027c, 0x1a8808850f002200030011b40081053108e050e7c,
   0x2f5088027d022000300102ed081053908e050e7c, 0x30010021058002906d030db7,
   0x30010021058002906d030db7, 0x30010121058016106d030db7, 0x30010121058012906d030db7,
   0x30010169058017106d030db7, 0x30010181058018906d030db7, 0x300100b1060002906d030eb7,
   0x300100b1060002906d030eb7, 0x30010551060012906d030eb7, 0x70003100030010039057030995,
   0x2fd03100030010559057030995, 0x30010031060002906d030eb7, 0x30010031060002906d030eb7,
   0x30010179060012906d030eb7,
   0x1ba80871ba00861b980850ca001f1b8802e082000850e808400030011b9002c1b780831b700820b0fb7,
   0x30010021061002906d030fb7]

/-- Where states 1536 to 1567 go after a phrase. -/
def gotos48 : List Nat :=
  [0x601313793002, 0x601313793002, 0x603313703002, 0x603313703002, 0x605313933002, 0x605313933002,
   0x607313823002, 0x607313823002, 0x6093138b3002, 0x6093138b3002, 0x60b3139b3002, 0x60b3139b3002,
   0x0, 0x0, 0x60f313683002, 0x60f313683002, 0x0, 0x0, 0x0, 0x0, 0x0, 0x0, 0x0, 0x0, 0x0,
   0x61a3b01, 0x61a3b01, 0x0, 0x0, 0x0, 0x5282f01, 0x0]

/-- What states 1568 to 1599 do with a token. -/
def moves49 : List Nat :=
  [0x30010021061002906d030fb7, 0x300100b102b002906d030fb7, 0x300100b102b002906d030fb7,
   0x3001055102b012906d030fb7, 0x3001002104d002906d030eb7, 0x3001002104d002906d030eb7,
   0x30010121061016106d030fb7, 0x30010121061012906d030fb7, 0x30010169061017106d030fb7,
   0x30010181061018906d030fb7, 0x3001003102b002906d030fb7, 0x3001003102b002906d030fb7,
   0x3001002104f002906d030cb7, 0x3001002104f002906d030cb7, 0x30010121050020995,
   0x30010561050020995, 0x30010569050020995, 0x30010559050020995, 0x3001012104d016106d030eb7,
   0x3001012104d012906d030eb7, 0x3001016904d017106d030eb7, 0x3001018104d018906d030eb7,
   0x3001017902b012906d030fb7, 0x3001012104f016106d030cb7, 0x3001012104f012906d030cb7,
   0x3001016904f017106d030cb7, 0x3001018104f018906d030cb7,
   0x1ba80871ba00861b980850dd801f1b8802e082000853b008400030011b9002c1b780831b700820b0fb7,
   0x1ba80871ba00861b980850dd001f1b8802e0820008532008400030011b9002c1b780831b700820b0fb7,
   0x1ba80871ba00861b980850dc801f1b8802e0820008526808400030011b9002c1b780831b700820b0fb7,
   0x1ba80871ba00861b980850e0801f1b8802e0820008559808400030011b9002c1b780831b700820b0fb7,
   0x1ba80871ba00861b980850df001f1b8802e0820008550008400030011b9002c1b780831b700820b0fb7]

/-- Where states 1568 to 1599 go after a phrase. -/
def gotos49 : List Nat :=
  [0x0, 0x0, 0x0, 0x0, 0x0, 0x0, 0x0, 0x0, 0x0, 0x0, 0x0, 0x0, 0x0, 0x0, 0x0, 0x0, 0x0, 0x0, 0x0,
   0x0, 0x0, 0x0, 0x0, 0x0, 0x0, 0x0, 0x0, 0x5282f01, 0x5282f01, 0x5282f01, 0x5282f01, 0x5282f01]

/-- What states 1600 to 1631 do with a token. -/
def moves50 : List Nat :=
  [0x1ba80871ba00861b980850df801f1b8802e0820008556008400030011b9002c1b780831b700820b0fb7,
   0x1ba80871ba00861b980850e0001f1b8802e0820008559008400030011b9002c1b780831b700820b0fb7,
   0x1ba80871ba00861b980850de001f1b8802e0820008543808400030011b9002c1b780831b700820b0fb7,
   0x1ba80871ba00861b980850de801f1b8802e082000854a008400030011b9002c1b780831b700820b0fb7,
   0x45a00254d500f91ae002e0f0005f1a7000916400080003001070f96,
   0x610042076805f0760031000300106180fa050f95, 0x300101210fb020f95, 0x7a003100030010039030030f95,
   0x300105610fb020f95, 0x300105690fb020f95, 0x300105590fb020f95,
   0x610042076805f0003001057105d06180fa050995, 0x30503100030010559030030f95,
   0x45a00254d500f91ae002e0d2805f1a7000916400080003001070f96,
   0x45a00254d500f91ae002e0ff005f1a7000916400080003001070f96,
   0x610042076805f06f8031000300106180fa050f95,
   0x45a00254d500f91ae002e105805f1a7000916400080003001070f96,
   0x45a00254d500f91ae002e109805f1a7000916400080003001070f96,
   0x45a00254d500f91ae002e10d005f1a7000916400080003001070f96,
   0x45a00254d500f91ae002e110805f1a7000916400080003001070f96,
   0x45a00254d500f91ae002e114005f1a7000916400080003001070f96,
   0x45a00254d500f91ae002e117805f1a7000916400080003001070f96,
   0x45a00254d500f91ae002e0d8805f1a7000916400080003001070f96,
   0x45a00254d500f91ae002e0db005f1a7000916400080003001070f96,
   0x42900254ee80f91d2002e1a780094df005516680080003001070e89, 0x610042076805f000300106180fa040f95,
   0x45a00254d500f91ae002e1a700091640008057905f0003001070f96,
   0x45a00254d500f91ae002e1a700091640008058105f0003001070f96,
   0x42900254ee80f91d2002e1a78009166800805790550003001070e89,
   0x42900254ee80f91d2002e1a78009166800805810550003001070e89,
   0x45a00254d500f91ae002e1a7000916400080003001060f89,
   0x10b80fe10b00fd1a100155640014127801210a80fc000300105890ba080cb6]

/-- Where states 1600 to 1631 go after a phrase. -/
def gotos50 : List Nat :=
  [0x5282f01, 0x5282f01, 0x5282f01, 0x5282f01, 0x8b6418b540a1c3fa1b3e9ac3d9ab3c06, 0x6473b01, 0x0,
   0x64c3b01, 0x0, 0x0, 0x0, 0x0, 0x64c3b01, 0x8b6418b540a1c3fa3f3e9ac3d9ab3c06,
   0x8b6418b540a1c3fa4c3e9ac3d9ab3c06, 0x6193b01, 0x8b6418b540a1c3fa633e9ac3d9ab3c06,
   0x8b6418b540a1c3fa753e9ac3d9ab3c06, 0x8b6418b540a1c3fa863e9ac3d9ab3c06,
   0x8b6418b540a1c3fa933e9ac3d9ab3c06, 0x8b6418b540a1c3fa9f3e9ac3d9ab3c06,
   0x8b6418b540a1c3faab3e9ac3d9ab3c06, 0x8b6418b540a1c3fabe3e9ac3d9ab3c06,
   0x8b6418b540a1c3fac13e9ac3d9ab3c06, 0x8f5418f440a333f8f63d9de3c05, 0x0,
   0x8b6419c1409ac3d9ab3c04, 0x8b6419c1409ac3d9ab3c04, 0x8f5419e8408f63d9de3c04,
   0x8f5419e8408f63d9de3c04, 0x8b6419c1409ac3d9ab3c04, 0x8f94472843a684203]

/-- What states 1632 to 1663 do with a token. -/
def moves51 : List Nat :=
  [0x42900254ee80f91d2002e1a7800916680080003001060f89, 0x300104490f30209b6,
   0x10f00fe10e80fd1a2001556500140f5005f128001210e00fc0ab0031059105600030010a0d7c,
   0x300105990f30209b6, 0xf300fe0f280fd0f200120f180fc000300105a10ff0609b6,
   0xf300fe0f280fd030d0fc000300105a91000509b6, 0xf300fe0f280fd000300105b11010409b6,
   0x300105b90f30209b6, 0xf280fd000300105b91020309b6,
   0xf300fe0f280fd0f200120f180fc000300105c10ff0609b6,
   0xf300fe0f280fd0f200120f180fc000300105c90ff0609b6,
   0x10f00fe10e80fd1a2001556500140f5005f128001210e00fc0ab0031059105600030010a0d7c,
   0x10f00fe10e80fd1a2001556500140f5005f128001210e00fc0ab0031059105600030010a0d7c,
   0x10f00fe10e80fd1a2001556500140f5005f128001210e00fc0ab0031059105600030010a0d7c,
   0x10f00fe10e80fd1a2001556500140f5005f128001210e00fc0ab0031059105600030010a0d7c,
   0x10f00fe10e80fd1a2001556500140f5005f128001210e00fc0ab0031059105600030010a0d7c,
   0x10f00fe10e80fd1a2001556500140f5005f128001210e00fc0ab0031059105600030010a0d7c,
   0x10f00fe10e80fd1a2001556500140f5005f128001210e00fc0ab0031059105600030010a0d7c,
   0x7080211e9810400030013720103041000, 0x7080211eb810400030013720103041000,
   0x10180fe10100fd16900155118014126801210080fc0a3803120700550003001090e7c,
   0x10b80fe10b00fd1a100155640014127801210a80fc0a7003105910540003001090c7c,
   0x5d110403150210003001031d103041000,
   0x10180fe10100fd16900155118014126801210080fc032503129480550003001090e7c,
   0x10180fe10100fd16900155118014126801210080fc08a003120e00550003001090e7c,
   0xf300fe0f280fd0f200120f180fc0c98031000300105e105d05890730809b6, 0x300104490f4020cb6,
   0x300105990f4020cb6, 0x10b80fe10b00fd127801210a80fc000300105a1105060cb6,
   0x10b80fe10b00fd032d0fc000300105a9106050cb6, 0x10b80fe10b00fd000300105b1107040cb6,
   0x300105b90f4020cb6]

/-- Where states 1632 to 1663 go after a phrase. -/
def gotos51 : List Nat :=
  [0x8f5419e8408f63d9de3c04, 0x0, 0x9164473043a2b4203, 0x0, 0x0, 0x0, 0x0, 0x0, 0x0, 0x0, 0x0,
   0x9164473043a534203, 0x9164473043a694203, 0x9164473043a7b4203, 0x9164473043a8b4203,
   0x9164473043a974203, 0x9164473043aa34203, 0x9164473043aaf4203, 0x6e4466734502, 0x6e4466764502,
   0x8ba4471943a244203, 0x8f94472843a2a4203, 0x6e4466764502, 0x8ba4471943a664203,
   0x8d74771943a244203, 0x8334801, 0x0, 0x0, 0x0, 0x0, 0x0, 0x0]

/-- What states 1664 to 1695 do with a token. -/
def moves52 : List Nat :=
  [0x10b00fd000300105b9108030cb6, 0x10b80fe10b00fd127801210a80fc000300105c1105060cb6,
   0x10b80fe10b00fd127801210a80fc000300105c9105060cb6, 0x708021239810400030013720103041000,
   0x70802123c810400030013720103041000,
   0x10180fe10100fd16900155118014126801210080fc0a3803128680550003001090e7c,
   0x10180fe10100fd16900155118014126801210080fc08d803128e00550003001090e7c,
   0x708021240810400030013720103041000, 0x708021242810400030013720103041000,
   0x10180fe10100fd16900155118014126801210080fc0a3803129480550003001090e7c,
   0x10180fe10100fd16900155118014126801210080fc091003129a00550003001090e7c,
   0x70802148f810400030013720103041000, 0x708021490010400030013720103041000,
   0x10180fe10100fd16900155118014126801210080fc0a3803124800550003001090e7c,
   0x10180fe10100fd16900155118014126801210080fc094803124d80550003001090e7c,
   0x708021229010400030013720103041000, 0x708021229810400030013720103041000,
   0x10180fe10100fd16900155118014126801210080fc0a3803125880550003001090e7c,
   0x10180fe10100fd16900155118014126801210080fc098003125e80550003001090e7c,
   0x70802122a010400030013720103041000, 0x70802122c010400030013720103041000,
   0x10180fe10100fd16900155118014126801210080fc0a3803126780550003001090e7c,
   0x10180fe10100fd16900155118014126801210080fc09b803126e00550003001090e7c,
   0x70802122c810400030013720103041000, 0x70802122e010400030013720103041000,
   0x10180fe10100fd16900155118014126801210080fc0a380312ac80550003001090e7c,
   0x10180fe10100fd16900155118014126801210080fc09e80312b200550003001090e7c,
   0x708021274010400030013720103041000, 0x708021276810400030013720103041000,
   0x10180fe10100fd16900155118014126801210080fc0a380312c680550003001090e7c,
   0x10180fe10100fd16900155118014126801210080fc0a180312cc00550003001090e7c,
   0x7080212b8010400030013720103041000]

/-- Where states 1664 to 1695 go after a phrase. -/
def gotos52 : List Nat :=
  [0x0, 0x0, 0x0, 0x6e4466844502, 0x6e4466764502, 0x8ba4471943a504203, 0x9374771943a504203,
   0x6e4466884502, 0x6e4466764502, 0x8ba4471943a664203, 0x94c4771943a664203, 0x6e44668c4502,
   0x6e4466764502, 0x8ba4471943a784203, 0x95e4771943a784203, 0x6e4466904502, 0x6e4466764502,
   0x8ba4471943a894203, 0x9704771943a894203, 0x6e4466944502, 0x6e4466764502, 0x8ba4471943a954203,
   0x97b4771943a954203, 0x6e4466984502, 0x6e4466764502, 0x8ba4471943aa14203, 0x9864771943aa14203,
   0x6e44669c4502, 0x6e4466764502, 0x8ba4471943aad4203, 0x9914771943aad4203, 0x6e4466a04502]

/-- What states 1696 to 1727 do with a token. -/
def moves53 : List Nat :=
  [0x7080212b9010400030013720103041000,
   0x10b80fe10b00fd1a100155640014127801210a80fc0a7003105910540003001090c7c,
   0x10b80fe10b00fd1a100155640014127801210a80fc0a7003105910540003001090c7c,
   0x10b80fe10b00fd1a100155640014127801210a80fc0a7003105910540003001090c7c,
   0x10b80fe10b00fd1a100155640014127801210a80fc0a7003105910540003001090c7c,
   0x10b80fe10b00fd1a100155640014127801210a80fc0a7003105910540003001090c7c,
   0x10b80fe10b00fd1a100155640014127801210a80fc0a7003105910540003001090c7c,
   0x10b80fe10b00fd1a100155640014127801210a80fc0a7003105910540003001090c7c,
   0x11280fe11200fd128801211180fc0a78031000300105e907a070d7c,
   0xf300fe0f280fd0f200120f180fc000300105890ea0609b6, 0x300104490f5020fb6, 0x300105990f5020fb6,
   0x10780fe10700fd127001210680fc000300105a1109060fb6,
   0x10780fe10700fd03350fc000300105a910a050fb6, 0x10780fe10700fd000300105b110b040fb6,
   0x300105b90f5020fb6, 0x10700fd000300105b910c030fb6,
   0x10780fe10700fd127001210680fc000300105c1109060fb6,
   0x10780fe10700fd127001210680fc000300105c9109060fb6,
   0x11600fe11580fd129001211500fc000300105890eb060eb6,
   0x11280fe11200fd128801211180fc0a78031000300105f107a070d7c, 0x300104490f6020eb6,
   0x300105990f6020eb6, 0x11600fe11580fd129001211500fc000300105a10eb060eb6,
   0x11600fe11580fd033d0fc000300105a910d050eb6, 0x11600fe11580fd000300105b110e040eb6,
   0x300105b90f6020eb6, 0x11580fd000300105b910f030eb6,
   0x11600fe11580fd129001211500fc000300105c10eb060eb6,
   0x11600fe11580fd129001211500fc000300105c90eb060eb6,
   0xf300fe0f280fd0f200120f180fc0ba80310f40007000300105f905d08097c,
   0x10780fe10700fd127001210680fc000300105890ed060fb6]

/-- Where states 1696 to 1727 go after a phrase. -/
def gotos53 : List Nat :=
  [0x6e4466764502, 0x8f94472843a524203, 0x8f94472843a684203, 0x8f94472843a7a4203,
   0x8f94472843a8a4203, 0x8f94472843a964203, 0x8f94472843aa24203, 0x8f94472843aae4203, 0x77a4801,
   0x0, 0x0, 0x0, 0x0, 0x0, 0x0, 0x0, 0x0, 0x0, 0x0, 0x0, 0x77a4801, 0x0, 0x0, 0x0, 0x0, 0x0, 0x0,
   0x0, 0x0, 0x0, 0x7bd4801, 0x0]

/-- What states 1728 to 1759 do with a token. -/
def moves54 : List Nat :=
  [0x2fc0042527008400030010601110040fb6, 0x527008400030010601111030fb6,
   0x527008400030010609111030fb6, 0x11280fe11200fd128801211180fc00030010611058060d7c,
   0x34508400030010619111030fb6, 0x11980fe11900fd129801211880fc000300105890ba060cb6,
   0x11280fe11200fd128801211180fc00030010621058060d7c, 0x3001044908a020d7c, 0x3001059908a020d7c,
   0x10f00fe10e80fd128001210e00fc000300105a1112060d7c,
   0x10f00fe10e80fd034d0fc000300105a9113050d7c, 0x10f00fe10e80fd000300105b1114040d7c,
   0x300105b908a020d7c, 0x10e80fd000300105b9115030d7c,
   0x10f00fe10e80fd128001210e00fc000300105c1112060d7c,
   0x10f00fe10e80fd128001210e00fc000300105c9112060d7c, 0x3001044908b020d7c, 0x3001059908b020d7c,
   0x11280fe11200fd128801211180fc000300105a1058060d7c,
   0x11280fe11200fd03550fc000300105a9116050d7c, 0x11280fe11200fd000300105b1117040d7c,
   0x300105b908b020d7c, 0x11200fd000300105b9118030d7c,
   0x11280fe11200fd128801211180fc000300105c1058060d7c,
   0x11280fe11200fd128801211180fc000300105c9058060d7c, 0x300104490f7020cb6, 0x300105990f7020cb6,
   0x11980fe11900fd129801211880fc000300105a10ba060cb6,
   0x11980fe11900fd035d0fc000300105a9119050cb6, 0x11980fe11900fd000300105b111a040cb6,
   0x300105b90f7020cb6, 0x11900fd000300105b911b030cb6]

/-- Where states 1728 to 1759 go after a phrase. -/
def gotos54 : List Nat :=
  [0x6c24901, 0x6c24901, 0x6c44901, 0x0, 0x6c44901, 0x0, 0x0, 0x0, 0x0, 0x0, 0x0, 0x0, 0x0, 0x0,
   0x0, 0x0, 0x0, 0x0, 0x0, 0x0, 0x0, 0x0, 0x0, 0x0, 0x0, 0x0, 0x0, 0x0, 0x0, 0x0, 0x0, 0x0]

/-- What states 1760 to 1791 do with a token. -/
def moves55 : List Nat :=
  [0x11980fe11900fd129801211880fc000300105c10ba060cb6,
   0x11980fe11900fd129801211880fc000300105c90ba060cb6,
   0xf300fe0f280fd0f200120f180fc0c98031000300105e105d07097c,
   0xed0020506001e504801950f80140003001050f7c, 0x3001062911c3750103031000,
   0xf300fe0f280fd0f200120f180fc0cb00310003001063105d07097c,
   0xf300fe0f280fd0f200120f180fc0f380310003001063905d07097c,
   0xf300fe0f280fd0f200120f180fc0ba80310003001064105d07097c,
   0xf300fe0f280fd0f200120f180fc0ba80310003001064905d07097c,
   0xf300fe0f280fd0f200120f180fc0ba8031000300105f105d07097c, 0x3001065111c0365103031000,
   0x51880660f700670e5806500030010411b9, 0xf300fe0f280fd0f200120f180fc0ba80310003001057105d07097c,
   0xf300fe0f280fd0f200120f180fc0003001061111d06097c,
   0x11980fe11900fd13980540bc805f129801211880fc0bc00310003001080c7c,
   0x51880660f700670e5806500030010411b9, 0xf300fe0f280fd0f200120f180fc0f380310003001065905d07097c,
   0x10f00fe10e80fd128001210e00fc0003001066111e060d7c,
   0x10180fe10100fd10080fc0003001066911f050e7c, 0x34380050003001067112003027c,
   0x10180fe10100fd10080fc0003001066911f050e7c, 0x10180fe10100fd10080fc0003001066911f050e7c,
   0x3001044908e020e7c, 0x3001059908e020e7c, 0x10180fe10100fd126801210080fc000300105a1121060e7c,
   0x10180fe10100fd036d0fc000300105a911f050e7c, 0x10180fe10100fd000300105b1122040e7c,
   0x300105b908e020e7c, 0x10100fd000300105b9123030e7c, 0x30010619124020fb6,
   0x10180fe10100fd126801210080fc000300105c1121060e7c,
   0x10180fe10100fd126801210080fc000300105c9121060e7c]

/-- Where states 1760 to 1791 go after a phrase. -/
def gotos55 : List Nat :=
  [0x0, 0x0, 0x8334801, 0x749052d04a02, 0x6ea4601, 0x8374b01, 0x8384801, 0x7bd4801, 0x7bd4801,
   0x7bd4801, 0x6ea4601, 0x2d62b1f02c1ef2903, 0x7bd4801, 0x0, 0x8d94c01, 0x2e02b1f82c1f72903,
   0x8474801, 0x0, 0x0, 0x3dc3201, 0x0, 0x0, 0x0, 0x0, 0x0, 0x0, 0x0, 0x0, 0x0, 0x0, 0x0, 0x0]

/-- What states 1792 to 1823 do with a token. -/
def moves56 : List Nat :=
  [0x10b80fe10b00fd10a80fc00030010669125050c7c, 0x2fd0042532808400030010601126040ea6,
   0x10b80fe10b00fd10a80fc00030010669125050c7c, 0x10b80fe10b00fd10a80fc00030010669125050c7c,
   0x10f00fe10e80fd10e00fc00030010669127050d7c, 0x2fe004253b808400030010601128040ca6,
   0x10f00fe10e80fd10e00fc00030010669127050d7c, 0x10f00fe10e80fd10e00fc00030010669127050d7c,
   0x2ff0042544008400030010601129040da6, 0xed0020561801e562001956380140003001050f7c,
   0x55c806612b00670e9806500030010411b9,
   0x11980fe11900fd23e00540bc805f129801211880fc0bf00310003001080c7c,
   0x55c806612b00670e9806500030010411b9,
   0x11980fe11900fd22500540bc805f129801211880fc0c000310003001080c7c,
   0x11980fe11900fd2a200540bc805f129801211880fc0c100310003001080c7c,
   0x11980fe11900fd25f80540bc805f129801211880fc0c200310003001080c7c,
   0x11980fe11900fd1ff80540bc805f129801211880fc0c300310003001080c7c,
   0x11980fe11900fd27200540bc805f129801211880fc0c400310003001080c7c,
   0x11980fe11900fd2b600540bc805f129801211880fc0c500310003001080c7c,
   0x11980fe11900fd2d000540bc805f129801211880fc0c600310003001080c7c,
   0x11980fe11900fd2d600540bc805f129801211880fc0c700310003001080c7c,
   0x3608025507812a41680840003001040fa6,
   0x10780fe10700fd45e005f127001210680fc0e380310003001070f7c,
   0x20880561a2001556500140af80310003001050d7c, 0x3a380254da800942080080003001040f7c,
   0x169001551180140f6801206790550003001050e7c, 0xf300fe0f280fd0f200120f180fc0003001068112b06097c,
   0x169001551180140f6801206890550003001050e7c, 0xf300fe0f280fd0f200120f180fc0003001069112b06097c,
   0x10780fe10700fd030805f127001210680fc0e700310003001070f7c,
   0x11600fe11580fd129001211500fc091003129a00550003001070e7c,
   0x11980fe11900fd0d0805f129801211880fc000300100a904f070c7c]

/-- Where states 1792 to 1823 go after a phrase. -/
def gotos56 : List Nat :=
  [0x0, 0x72f4901, 0x0, 0x0, 0x0, 0x7374901, 0x0, 0x0, 0x73b4901, 0x7490530a4a02,
   0x30f2b2072c2062903, 0x9394c01, 0x3192b20a2c2092903, 0x94e4c01, 0x9604c01, 0x9724c01,
   0x97d4c01, 0x9884c01, 0x9934c01, 0x9954c01, 0x9974c01, 0x82d4f8ab4ea104d03, 0x8bd5001,
   0x8c25173043a2c4203, 0x7b4359b75482c539b65204, 0x71b5501, 0x0, 0x7215501, 0x0, 0x9254801,
   0x94c4701, 0x0]

/-- What states 1824 to 1855 do with a token. -/
def moves57 : List Nat :=
  [0x10180fe10100fd10080fc00030010699059050e7c, 0x385015037d014037501206a10550003001050e7c,
   0x10780fe10700fd033805f127001210680fc0e700310003001070f7c,
   0x11980fe11900fd0bc805f129801211880fc000300106a904f070c7c,
   0x11980fe11900fd0d1805f129801211880fc000300100f904f070c7c, 0x30014e6802c0671120030f7c,
   0x30014e7002c06b1120030f7c, 0x11600fe11580fd129001211500fc0d4803105f10550003001070e7c,
   0x1a10015564001411d801206790540003001050c7c, 0x1a10015564001411d801206890540003001050c7c,
   0x10b80fe10b00fd10a80fc0003001069905b050c7c, 0x6a1054039d0150395014038d0120003001050c7c,
   0x34d80050003001067112c03077c, 0x532808400030010601126030ea6,
   0x11980fe11900fd129801211880fc05f10540d680310003001070c7c, 0x532808400030010609126030ea6,
   0x1a200155650014120801206790560003001050d7c, 0x3a508400030010619126030ea6,
   0x1a200155650014120801206890560003001050d7c, 0x10f00fe10e80fd10e00fc0003001069905c050d7c,
   0x6a105603bd01503b501403ad0120003001050d7c, 0x34f80050003001067112d03087c,
   0x53b808400030010601128030ca6, 0x53b808400030010609128030ca6, 0x3c508400030010619128030ca6,
   0x34b80050003001067112e03067c, 0x544008400030010601129030da6, 0x544008400030010609129030da6,
   0x3cd08400030010619129030da6, 0x28880561a2001556500140b200310003001050d7c,
   0x29600561a2001556500140b380310003001050d7c, 0x24980561a2001556500140b500310003001050d7c]

/-- Where states 1824 to 1855 go after a phrase. -/
def gotos57 : List Nat :=
  [0x0, 0x7215501, 0x9254801, 0x0, 0x0, 0x0, 0x0, 0x9174801, 0x7295501, 0x72b5501, 0x0, 0x72b5501,
   0x4053201, 0x72f4901, 0x9214801, 0x7314901, 0x7325501, 0x7314901, 0x7345501, 0x0, 0x7345501,
   0x4693201, 0x7374901, 0x7384901, 0x7384901, 0x3d03201, 0x73b4901, 0x73c4901, 0x73c4901,
   0x9305173043a544203, 0x9485173043a6a4203, 0x95a5173043a7c4203]

/-- What states 1856 to 1887 do with a token. -/
def moves58 : List Nat :=
  [0x25a00561a2001556500140b600310003001050d7c, 0x26a00561a2001556500140b700310003001050d7c,
   0x2ae00561a2001556500140b800310003001050d7c, 0x2c800561a2001556500140b900310003001050d7c,
   0x10780fe10700fd497005f127001210680fc0e900310003001070f7c,
   0x10780fe10700fd03e005f127001210680fc0e700310003001070f7c,
   0x10780fe10700fd041005f127001210680fc0e700310003001070f7c, 0x51000840003001060112f0309a6,
   0x10780fe10700fd127001210680fc000300105d902b060f7c, 0x3d5020000300106b9130030f7c,
   0x51000840003001060912f0309a6, 0x11600fe11580fd129001211500fc000300106c104d060e7c,
   0xf300fe0f280fd0f200120f180fc000300106c905d06097c,
   0x11280fe11200fd128801211180fc000300106d1131060d7c,
   0xf300fe0f280fd0f200120f180fc0003001062105d06097c,
   0x7d8085062004207d005f5288084000300106d905d0609b6, 0x300106e1132021000,
   0x3dd0840003001061912f0309a6, 0x11600fe11580fd129001211500fc000300106e904d060e7c,
   0xf300fe0f280fd0f200120f180fc000300106f105d06097c,
   0x10780fe10700fd127001210680fc000300106f902b060f7c,
   0x7f80853ad805407f005f071003153380840003001060cb6,
   0x10780fe10700fd127001210680fc0003001070102b060f7c, 0x30010709132021000, 0x30010711132021000,
   0x30010719132021000, 0x10780fe10700fd034805f12700120fd80fc0fd00310003001070f7c,
   0x30010721133020fb6, 0x11600fe11580fd129001211500fc0003001072904d060e7c,
   0x11600fe11580fd129001211500fc0003001073104d060e7c,
   0x11600fe11580fd129001211500fc0003001073904d060e7c,
   0x11980fe11900fd129801211880fc000300100f904f060c7c]

/-- Where states 1856 to 1887 go after a phrase. -/
def gotos58 : List Nat :=
  [0x96c5173043a8c4203, 0x9775173043a984203, 0x9825173043aa44203, 0x98d5173043ab04203, 0x92f5001,
   0x9254801, 0x9254801, 0x74a4901, 0x0, 0x7490501, 0x7514901, 0x0, 0x0, 0x0, 0x0, 0x0, 0x0,
   0x7514901, 0x0, 0x0, 0x0, 0x8e05601, 0x0, 0x0, 0x0, 0x0, 0x0, 0x0, 0x0, 0x0, 0x0, 0x0]

/-- What states 1888 to 1919 do with a token. -/
def moves59 : List Nat :=
  [0x30010741132021000, 0x30010749132021000, 0x30010751132021000, 0xa5003100030010759059030e7c,
   0x2dd000800030010671120030f7c, 0x36005f123001252000fc2db00310003001050f7c,
   0x2fc808500030010761134030f7c, 0x30010769133020fb6,
   0x10780fe10700fd127001210680fc0003001077102b060f7c,
   0x11980fe11900fd129801211880fc0003001010104f060c7c, 0x30010779132021000,
   0xa5803100030010781059030e7c, 0xa6003100030010789059030e7c, 0x2fc808500030010791134030f7c,
   0x10780fe10700fd000300105b1134040f7c, 0x30010799133020fb6,
   0x11980fe11900fd129801211880fc000300107a104f060c7c, 0xa68031000300107a9059030e7c,
   0x3e5031000300107b1059030e7c, 0x2fc8085000300107b9134030f7c, 0x300107c1120020f7c,
   0x3ed085000300107c1134030f7c, 0x11600fe11580fd129001211500fc000300105d904d060e7c,
   0x300105890ea0209b6, 0x14d00310003001003907a030d7c,
   0x11980fe11900fd129801211880fc000300106c104f060c7c, 0xa880310003001008107a030d7c,
   0x300101c10ea0209b6, 0x300107c90ea0209b6, 0x300107d10ea0209b6,
   0x11600fe11580fd129001211500fc000300106d104d060e7c,
   0x11600fe11580fd129001211500fc0003001062104d060e7c]

/-- Where states 1888 to 1919 go after a phrase. -/
def gotos59 : List Nat :=
  [0x0, 0x0, 0x0, 0x76c5701, 0x0, 0x7d658a413702, 0x76d5901, 0x0, 0x0, 0x0, 0x0, 0x7715701,
   0x7725701, 0x7755901, 0x0, 0x0, 0x0, 0x7725701, 0x7725701, 0x76d5901, 0x76d5901, 0x7755901,
   0x0, 0x0, 0x7a33b01, 0x0, 0x7804801, 0x0, 0x0, 0x0, 0x0, 0x0]

end CellScript.Python.Grammar
