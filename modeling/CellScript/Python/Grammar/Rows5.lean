set_option autoImplicit false

/-! # Rows of the automaton, part 5 of 6

One number per state; `Grammar.Automaton` says how it is read. -/

namespace CellScript.Python.Grammar

/-- What states 1920 to 1951 do with a token. -/
def moves60 : List Nat :=
  [0x3f50310003001061107a030d7c, 0x11980fe11900fd129801211880fc000300106e904f060c7c,
   0x300107d90ea0209b6, 0x7d808507d005f5288084000300107e11350509b6, 0x300107e90ea0209b6,
   0x11280fe11200fd128801211180fc00030010661131060d7c,
   0x81008511e0042080805f53c8084000300107f104d060eb6,
   0x11600fe11580fd129001211500fc0003001070104d060e7c, 0x300107210ea0209b6,
   0xa900310003001075905b030c7c, 0x30014fc002c067112c030e7c, 0x300107690ea0209b6,
   0x11600fe11580fd129001211500fc0003001077104d060e7c, 0xa980310003001078105b030c7c,
   0xaa00310003001078905b030c7c, 0x30014fc802c06b112c030e7c, 0x300107990ea0209b6,
   0xaa8031000300107a905b030c7c, 0x3fd031000300107b105b030c7c,
   0x11280fe11200fd128801211180fc000300106c1131060d7c,
   0x11980fe11900fd129801211880fc0003001062104f060c7c,
   0x11600fe11580fd129001211500fc0003001061104d060e7c, 0x30010619136020ea6,
   0x11280fe11200fd128801211180fc000300106e9131060d7c, 0xac00310003001075905c030d7c,
   0x30014fe002c067112d030c7c, 0xac80310003001078105c030d7c, 0xad00310003001078905c030d7c,
   0x30014fe802c06b112d030c7c, 0xad8031000300107a905c030d7c, 0x405031000300107b105c030d7c,
   0x300105890eb020eb6]

/-- Where states 1920 to 1951 go after a phrase. -/
def gotos60 : List Nat :=
  [0x7804801, 0x0, 0x0, 0x0, 0x0, 0x0, 0x0, 0x0, 0x0, 0x78e5701, 0x0, 0x0, 0x0, 0x7915701,
   0x7925701, 0x0, 0x0, 0x7925701, 0x7925701, 0x0, 0x0, 0x0, 0x0, 0x0, 0x79b5701, 0x0, 0x79d5701,
   0x79e5701, 0x0, 0x79e5701, 0x79e5701, 0x0]

/-- What states 1952 to 1983 do with a token. -/
def moves61 : List Nat :=
  [0x300101c10eb020eb6, 0x300107c90eb020eb6, 0x300107d10eb020eb6, 0x40d0310003001055907a030d7c,
   0x11980fe11900fd129801211880fc0003001061104f060c7c, 0x30010619137020ca6, 0x300107d90eb020eb6,
   0x810085080805f53c8084000300107e1138050eb6, 0x300107e90eb020eb6, 0x300107210eb020eb6,
   0x3001500002c067112e030d7c, 0x300107690eb020eb6, 0x3001500802c06b112e030d7c,
   0x300107990eb020eb6, 0x10780fe10700fd127001210680fc0003001061102b060f7c, 0x30010619139020da6,
   0x7f80853c4005407f005f072003153380840003001060cb6,
   0x7f8085400805407f005f073003153380840003001060cb6,
   0x7f80853d4805407f005f074003153380840003001060cb6,
   0x10780fe10700fd042005f12700120fd80fc12c00310003001070f7c,
   0x51080fc3dd8031000300107f905d04097c, 0x10780fe10700fd02c005f127001210680fc0003001060f7c,
   0x10780fe10700fd02c805f127001210680fc0003001060f7c, 0x300105890ed020fb6,
   0x77801f02d805f07980080003001040f7c, 0xf300fe0f280fd0f200120f180fc41e0032000300106097c,
   0x464813a3a8005641e80423e1805f0003001050d7c, 0x3a380250003001080105d03097c,
   0x3a3802542000080003001030f7c, 0xbb80310003001008105e03097c, 0x300101c10ed020fb6,
   0x300107c90ed020fb6]

/-- Where states 1952 to 1983 go after a phrase. -/
def gotos61 : List Nat :=
  [0x0, 0x0, 0x0, 0x7a33b01, 0x0, 0x0, 0x0, 0x0, 0x0, 0x0, 0x0, 0x0, 0x0, 0x0, 0x0, 0x0,
   0x93b5601, 0x94f5601, 0x9615601, 0x0, 0x8345a01, 0x0, 0x0, 0x0, 0xa295b8c11302, 0x0, 0xa2e5c01,
   0x83e358ca5302, 0x7b43582c539b45203, 0x7c24801, 0x0, 0x0]

/-- What states 1984 to 2015 do with a token. -/
def moves62 : List Nat :=
  [0x300107d10ed020fb6, 0x10780fe10700fd0f88064127001210680fc0003001060f7c,
   0x4150310003001061105e03097c, 0x3e6013b075002108090560003001040dbb, 0x3001061913c0209a6,
   0x3a380250003001081105d03097c, 0x300107d90ed020fb6, 0x790085078005f5140084000300107e113d050fb6,
   0x7d808507d005f52880840003001081905d0509b6, 0x300107e90ed020fb6,
   0x10780fe10700fd11c805f127001210680fc0003001060f7c,
   0x7900850fc80425140084078005f07f10310003001060fb6, 0x3e7013b075002108210560003001040dbb,
   0x10780fe10700fd035005f12700120fe00fc0003001060f7c, 0x42513b0829056041d0210003001040dbb,
   0x10780fe10700fd035805f127001210680fc0003001060f7c, 0x7f808507f005f53380840003001083104f050cb6,
   0x30010839120020f7c, 0x30010841120020f7c, 0x30010849120020f7c, 0x30010851120020f7c,
   0x3ef00562f180310003001067113e040d7c, 0x36805f12300122db80310003001040f7c,
   0x10780fe10700fd037805f127001210680fc0003001060f7c, 0x10780fe10700fd000300105b113f040f7c,
   0x3001085911f020e7c, 0x300107b111f020e7c, 0x30010861120020f7c, 0x30010869120020f7c,
   0x30010871120020f7c, 0x30010879120020f7c, 0x30010881120020f7c]

/-- Where states 1984 to 2015 go after a phrase. -/
def gotos62 : List Nat :=
  [0x0, 0x0, 0x7c24801, 0x7cc5e8da5d02, 0x0, 0x83e358ca5302, 0x0, 0x0, 0x0, 0x0, 0x0, 0x0,
   0x7ce5e8da5d02, 0x0, 0x7ce5e8da5d02, 0x0, 0x0, 0x0, 0x0, 0x0, 0x0, 0x8ed5f01, 0x84f58a423702,
   0x0, 0x0, 0x0, 0x0, 0x0, 0x0, 0x0, 0x0, 0x0]

/-- What states 2016 to 2047 do with a token. -/
def moves63 : List Nat :=
  [0x30010889120020f7c, 0x3001089111f020e7c, 0x30010899120020f7c, 0x300108a1120020f7c,
   0x300108a9120020f7c, 0x300108b1120020f7c, 0x300108b9120020f7c, 0x300108c1120020f7c,
   0x300108c9120020f7c, 0x300108d1120020f7c, 0x300108d9120020f7c, 0x300108e1120020f7c,
   0x300108e9120020f7c, 0x300108f1120020f7c, 0x300108f9120020f7c, 0x30010901120020f7c,
   0x810085080805f53c8084000300107f104d050eb6, 0x2e180080003001067112c030e7c,
   0x2fd808500030010761140030e7c, 0x2fd808500030010791140030e7c, 0x30010859125020c7c,
   0x300107b1125020c7c, 0x2fd8085000300107b9140030e7c, 0x300107c112c020e7c,
   0x42d085000300107c1140030e7c, 0x30010891125020c7c, 0x300105890ba020cb6, 0x300101c10ba020cb6,
   0x300107c90ba020cb6, 0x300107d10ba020cb6, 0x300107d90ba020cb6,
   0x7f808507f005f5338084000300107e104f050cb6]

/-- Where states 2016 to 2047 go after a phrase. -/
def gotos63 : List Nat :=
  [0x0, 0x0, 0x0, 0x0, 0x0, 0x0, 0x0, 0x0, 0x0, 0x0, 0x0, 0x0, 0x0, 0x0, 0x0, 0x0, 0x0, 0x0,
   0x7f35901, 0x7f85901, 0x0, 0x0, 0x7f35901, 0x7f35901, 0x7f85901, 0x0, 0x0, 0x0, 0x0, 0x0, 0x0,
   0x0]

/-- What states 2048 to 2079 do with a token. -/
def moves64 : List Nat :=
  [0x300107e90ba020cb6, 0x300107210ba020cb6, 0x2e600080003001067112d030c7c,
   0x2fe808500030010761141030c7c, 0x300107690ba020cb6, 0x2fe808500030010791141030c7c,
   0x300107990ba020cb6, 0x30010859127020d7c, 0x300107b1127020d7c, 0x2fe8085000300107b9141030c7c,
   0x300107c112d020c7c, 0x435085000300107c1141030c7c, 0x30010891127020d7c, 0x30010121058020d7c,
   0x300105f1058020d7c, 0x30010561058020d7c, 0x30010569058020d7c, 0x30010559058020d7c,
   0x10780fe10700fd127001210680fc069905f0003001060f7c, 0x2ea80080003001067112e030d7c,
   0x2ff808500030010761142030d7c, 0x30010841143020d7c, 0x2ff808500030010791142030d7c,
   0x2ff8085000300107b9142030d7c, 0x300107c112e020d7c, 0x43d085000300107c1142030d7c,
   0x49a813a480005644e00423e1805f0003001050d7c,
   0x10780fe10700fd1040064127001210680fc0003001060f7c, 0x42e00562f400310003001067113e040d7c,
   0x10780fe10700fd1090064127001210680fc0003001060f7c, 0x43a00562f680310003001067113e040d7c,
   0x10780fe10700fd10c8064127001210680fc0003001060f7c]

/-- Where states 2048 to 2079 go after a phrase. -/
def gotos64 : List Nat :=
  [0x0, 0x0, 0x0, 0x8055901, 0x0, 0x80b5901, 0x0, 0x0, 0x0, 0x8055901, 0x8055901, 0x80b5901, 0x0,
   0x0, 0x0, 0x0, 0x0, 0x0, 0x0, 0x0, 0x8165901, 0x0, 0x8195901, 0x8165901, 0x8165901, 0x8195901,
   0xa565c01, 0x0, 0x9405f01, 0x0, 0x9545f01, 0x0]

/-- What states 2080 to 2111 do with a token. -/
def moves65 : List Nat :=
  [0x44580562f900310003001067113e040d7c, 0x10780fe10700fd1100064127001210680fc0003001060f7c,
   0x10780fe10700fd1138064127001210680fc0003001060f7c,
   0x10780fe10700fd1170064127001210680fc0003001060f7c,
   0x10780fe10700fd11a8064127001210680fc0003001060f7c,
   0x10780fe10700fd039805f127001210680fc0003001060f7c,
   0x10780fe10700fd03a005f127001210680fc0003001060f7c, 0x77801f03b005f07980080003001040f7c,
   0x10780fe10700fd042805f12700120fe00fc0003001060f7c,
   0x10780fe10700fd043005f127001210680fc0003001060f7c,
   0x10780fe10700fd043805f127001210680fc0003001060f7c, 0x3a380250003001020f7c,
   0x3dd8031000300107f905d03097c, 0x41a808400030010909144030fa6, 0xca80310003001091105d03097c,
   0x77801f32c00080003001030f7c, 0x51380310003001091905d03097c, 0x51380310003001092105d03097c,
   0x7900850788042078005f51400840003001050fb6, 0xcc8031000300100b905d03097c,
   0x3e280310003001092905d03097c, 0x44508400030010931144030fa6, 0xcd00310003001093905d03097c,
   0xcd80310003001094105d03097c, 0xf380310003001094905d03097c, 0x77801f32c00080003001030f7c,
   0x51380310003001095105d03097c, 0x51380310003001095905d03097c, 0x30010961145020f7c,
   0x46d813a3ab80563e1805f0003001040d7c, 0x51080fc0003001096912b03097c,
   0x44d0310003001097105d03097c]

/-- Where states 2080 to 2111 go after a phrase. -/
def gotos65 : List Nat :=
  [0x9665f01, 0x0, 0x0, 0x0, 0x0, 0x0, 0x0, 0xab65b9981302, 0x0, 0x0, 0x0, 0x7b43582c539a75203,
   0x8345a01, 0x8354f01, 0x8364b01, 0x9b0139af6002, 0x83a6101, 0x83b6101, 0x0, 0x7c24801,
   0x83f5a01, 0x8354f01, 0x8424b01, 0x8424b01, 0x7c24801, 0x9bc139bb6002, 0x8446101, 0x8446101,
   0x0, 0xa355c01, 0x0, 0x83f5a01]

/-- What states 2112 to 2143 do with a token. -/
def moves66 : List Nat :=
  [0x39680250003001020f7c, 0x39680250003001020f7c, 0x4550310003001097905d03097c,
   0x2ee014616d8027000300103127c, 0x45d0310003001098105d03097c,
   0x7900855140084078005f07f10310003001050fb6, 0x2ee01461740027000300103127c,
   0xf380310003001098905d03097c, 0x30010761134020f7c, 0x9910270465146000300103127c,
   0x52d00fc2dd80313ed80550003001040e7c, 0x3ee005453600fc2de00310003001040c7c,
   0x52d00fc2df80313f480550003001040e7c, 0x52000fc00030010999147030f7c, 0x300109a1134020f7c,
   0x46d03100030010999148030f7c, 0x300109a9131067113e030d7c, 0x52780fc429803107f90550003001040e7c,
   0x11d004207e005f000300109b104d040e7c, 0x396802508010550003001030e7c,
   0x396802508110550003001030e7c, 0x3001083912c020e7c, 0x3001084112c020e7c, 0x3001084912c020e7c,
   0x3001085112c020e7c, 0x3001086112c020e7c, 0x3001086912c020e7c, 0x3001087112c020e7c,
   0x3001087912c020e7c, 0x3001088112c020e7c, 0x3001088912c020e7c, 0x3001089912c020e7c]

/-- Where states 2112 to 2143 go after a phrase. -/
def gotos66 : List Nat :=
  [0x851358f153a375203, 0x851358f153a385203, 0x8424b01, 0x846639c26202, 0x8446101, 0x0,
   0x849639c26202, 0x7c24801, 0x0, 0x849639c26202, 0x8ea5801, 0x8eb5801, 0x8f05801, 0x0, 0x0,
   0x84f5801, 0x0, 0x8f85a01, 0x0, 0x901359e25302, 0x901359e25302, 0x0, 0x0, 0x0, 0x0, 0x0, 0x0,
   0x0, 0x0, 0x0, 0x0, 0x0]

/-- What states 2144 to 2175 do with a token. -/
def moves67 : List Nat :=
  [0x300108a112c020e7c, 0x300108a912c020e7c, 0x300108b112c020e7c, 0x300108b912c020e7c,
   0x300108c112c020e7c, 0x300108c912c020e7c, 0x300108d112c020e7c, 0x300108d912c020e7c,
   0x300108e112c020e7c, 0x300108e912c020e7c, 0x300108f112c020e7c, 0x300108f912c020e7c,
   0x3001090112c020e7c, 0x3001083912d020c7c, 0x3001084112d020c7c, 0x3001084912d020c7c,
   0x3001085112d020c7c, 0x3001086112d020c7c, 0x3001086912d020c7c, 0x3001087112d020c7c,
   0x3001087912d020c7c, 0x3001088112d020c7c, 0x3001088912d020c7c, 0x3001089912d020c7c,
   0x300108a112d020c7c, 0x300108a912d020c7c, 0x300108b112d020c7c, 0x300108b912d020c7c,
   0x300108c112d020c7c, 0x300108c912d020c7c, 0x300108d112d020c7c, 0x300108d912d020c7c]

/-- Where states 2144 to 2175 go after a phrase. -/
def gotos67 : List Nat :=
  [0x0, 0x0, 0x0, 0x0, 0x0, 0x0, 0x0, 0x0, 0x0, 0x0, 0x0, 0x0, 0x0, 0x0, 0x0, 0x0, 0x0, 0x0, 0x0,
   0x0, 0x0, 0x0, 0x0, 0x0, 0x0, 0x0, 0x0, 0x0, 0x0, 0x0, 0x0, 0x0]

/-- What states 2176 to 2207 do with a token. -/
def moves68 : List Nat :=
  [0x300108e112d020c7c, 0x300108e912d020c7c, 0x300108f112d020c7c, 0x300108f912d020c7c,
   0x3001090112d020c7c, 0x3001083912e020d7c, 0x3001084912e020d7c, 0x3001085112e020d7c,
   0x3001086112e020d7c, 0x3001086912e020d7c, 0x3001087112e020d7c, 0x3001087912e020d7c,
   0x3001088112e020d7c, 0x3001088912e020d7c, 0x3001089912e020d7c, 0x300108a112e020d7c,
   0x300108a912e020d7c, 0x300108b112e020d7c, 0x300108b912e020d7c, 0x300108c112e020d7c,
   0x300108c912e020d7c, 0x300108d112e020d7c, 0x300108d912e020d7c, 0x300108e112e020d7c,
   0x300108e912e020d7c, 0x300108f112e020d7c, 0x300108f912e020d7c, 0x3001090112e020d7c,
   0x49d013a48400563e1805f0003001040d7c, 0x2ee014618a0027000300103127c,
   0x2ee01461908027000300103127c, 0x52d00fc2e2003142c80550003001040e7c]

/-- Where states 2176 to 2207 go after a phrase. -/
def gotos68 : List Nat :=
  [0x0, 0x0, 0x0, 0x0, 0x0, 0x0, 0x0, 0x0, 0x0, 0x0, 0x0, 0x0, 0x0, 0x0, 0x0, 0x0, 0x0, 0x0, 0x0,
   0x0, 0x0, 0x0, 0x0, 0x0, 0x0, 0x0, 0x0, 0x0, 0xa575c01, 0x89e639c26202, 0x849639c26202,
   0x93d5801]

/-- What states 2208 to 2239 do with a token. -/
def moves69 : List Nat :=
  [0x42d005453600fc2e280310003001040c7c, 0x52d00fc2e4003143300550003001040e7c,
   0x52d00fc2e6803143880550003001040e7c, 0x439005453600fc2e700310003001040c7c,
   0x52d00fc2e8803143f00550003001040e7c, 0x52d00fc2eb003144400550003001040e7c,
   0x444805453600fc2eb80310003001040c7c, 0x52d00fc2ed003144a80550003001040e7c,
   0x77801f32c00080003001030f7c, 0x77801f32c00080003001030f7c, 0x44814913f0032000300103097c,
   0x360802509b90060003001030f7c, 0xa3803105910550003001030e7c, 0x168803109c10550003001030e7c,
   0xa3803120700550003001030e7c, 0xf40007000300105f905d03097c, 0xe4007f18480310003001030f7c,
   0xcb803109c905f0003001030f7c, 0xf4807f000300109d105d03097c, 0x20880560af80310003001030d7c,
   0xf58042000300109b102b030f7c, 0x32d003109d905f0003001030f7c, 0xf58042000300109b102b030f7c,
   0x45014913f8032000300103097c, 0xa380314dc00550003001030e7c, 0xa380314dc80550003001030e7c,
   0xa4003100510550003001030e7c, 0x169803102b10550003001030e7c, 0x421803316a8032000300103137c,
   0x467805f0e480310003001030f7c, 0xe5007f18480310003001030f7c, 0xce003151900550003001030e7c]

/-- Where states 2208 to 2239 go after a phrase. -/
def gotos69 : List Nat :=
  [0x93e5801, 0x9415801, 0x9515801, 0x9525801, 0x9555801, 0x9635801, 0x9645801, 0x9675801,
   0xa0613a026002, 0xa0713a036002, 0x8b76401, 0xa223501, 0x8ba4401, 0x8bb3b01, 0x8ba4401, 0x0,
   0x92b3b01, 0x8c06501, 0x0, 0x8c25101, 0x0, 0x8c46601, 0x0, 0x8c56401, 0x8ba4401, 0x8ba4401,
   0x8cc4401, 0x8ff3b01, 0x2d56701, 0x8d05001, 0x92b3b01, 0x8d26501]

/-- What states 2240 to 2271 do with a token. -/
def moves70 : List Nat :=
  [0xce803100d105f0003001030f7c, 0x2f005f07980080003001030f7c, 0x20c80560b000310003001030d7c,
   0x3001016914a020f7c, 0x32d8031057905f0003001030f7c, 0x9e10320475149000300103097c,
   0x8a003120e00550003001030e7c, 0x8a803120e80550003001030e7c, 0x13980540bc00310003001030c7c,
   0x3ac00563e1805f0003001030d7c, 0x3001096912b02097c, 0x300109e912b02097c,
   0x47d03106e90550003001030e7c, 0xcf807f18480310003001030f7c, 0x421803316d0032000300103137c,
   0x421803316e0032000300103137c, 0x9f105f04850310003001030f7c, 0x3001023114b0211b9,
   0xd0003151e00550003001030e7c, 0x9f905f048d0310003001030f7c, 0x3001098112b02097c,
   0xa0105604950310003001030d7c, 0xa0905f049d0310003001030f7c, 0x8b003120f80550003001030e7c,
   0x8b803121000550003001030e7c, 0x13a80540bd80310003001030c7c, 0x30010a1114c020dbb,
   0x3b000563e1805f0003001030d7c, 0x3a380250003001020f7c, 0xd1007f18480310003001030f7c,
   0x42180331748032000300103137c, 0x3001023914b0211b9]

/-- Where states 2240 to 2271 go after a phrase. -/
def gotos70 : List Nat :=
  [0x8d36501, 0xa345b01, 0x8d55101, 0x0, 0x8d66601, 0x8c56401, 0x8d74701, 0x8d84701, 0x8d94c01,
   0xa365c01, 0x0, 0x0, 0x8cc4401, 0x92b3b01, 0x2da6701, 0x2dc6701, 0x8d05001, 0x0, 0x9056501,
   0x8d36501, 0x0, 0x8d55101, 0x8d66601, 0x8e24701, 0x8e24701, 0x8e34c01, 0x0, 0xa3d5c01,
   0x83e358ca5302, 0x92b3b01, 0x2e96701, 0x0]

/-- What states 2272 to 2303 do with a token. -/
def moves71 : List Nat :=
  [0x3b3805407180310003001030c7c, 0x790085025805f51400840003001040fb6,
   0x4a503107390550003001030e7c, 0xa1905404ad0310003001030c7c,
   0x790085026005f51400840003001040fb6, 0x83105404b50310003001030c7c,
   0x790085026805f51400840003001040fb6, 0x2fc80852ee805f0003001030f7c,
   0x3ee80562f100310003001030d7c, 0x790085027005f51400840003001040fb6,
   0x2de80313f100550003001030e7c, 0x3f180542df00310003001030c7c, 0x3f300562f200310003001030d7c,
   0x3f400562f280310003001030d7c, 0x53f00fc00030010a21131030d7c, 0xa2905604bd0310003001030d7c,
   0x2e000313f700550003001030e7c, 0x429803107f90550003001030e7c, 0xa7003105910540003001030c7c,
   0x185803109c10540003001030c7c, 0x32e003109d90550003001030e7c, 0x11d0042000300109b104d030e7c,
   0x7e805f000300109b104d030e7c, 0x300101c914b0211b9, 0x42a003109290550003001030e7c,
   0xa8003100510540003001030c7c, 0x30010561138020e7c, 0x186803102b10540003001030c7c,
   0x30010169138020e7c, 0x32e803105790550003001030e7c, 0x300101d114b0211b9,
   0x4c503105590550003001030e7c]

/-- Where states 2272 to 2303 go after a phrase. -/
def gotos71 : List Nat :=
  [0x8e55601, 0x0, 0x8e24701, 0x8e34c01, 0x0, 0x8e55601, 0x0, 0x76d5901, 0x8ec5f01, 0x0,
   0x9145801, 0x91e5801, 0x8ef5f01, 0x8ef5f01, 0x0, 0x8ef5f01, 0x9145801, 0x8f85a01, 0x8f94401,
   0x8fb3b01, 0x8fd6601, 0x0, 0x0, 0x0, 0x9025a01, 0x9034401, 0x0, 0x9183b01, 0x0, 0x9066601, 0x0,
   0x8ff3b01]

/-- What states 2304 to 2335 do with a token. -/
def moves72 : List Nat :=
  [0x300106e114c020dbb, 0x52780fc0003001096904d030e7c, 0x4cd03109710550003001030e7c,
   0x6e905404d50310003001030c7c, 0x44e803318a8032000300103137c, 0x4dd03109f90550003001030e7c,
   0x4e50310a090550003001030e7c, 0x300101d914b0211b9, 0x3001070914c020dbb, 0x3001071114c020dbb,
   0x3001071914c020dbb, 0x39680250003001020f7c, 0x44e80331910032000300103137c,
   0x3001074114c020dbb, 0x3001074914c020dbb, 0x3001075114c020dbb, 0x30010761140020e7c,
   0x3001077914c020dbb, 0x52d00fc0003001099904d030e7c, 0x300109a1140020e7c,
   0x4ed03109990550003001030e7c, 0xab003105910560003001030d7c, 0xab803100510560003001030d7c,
   0xd5003100810550003001030e7c, 0x55905404f50310003001030c7c, 0x4fd03106110550003001030e7c,
   0x6e905605050310003001030d7c, 0x30010761141020c7c, 0x53600fc0003001099904f030c7c,
   0x300109a1141020c7c, 0x999054050d0310003001030c7c, 0x3001048114d02097c]

/-- Where states 2304 to 2335 go after a phrase. -/
def gotos72 : List Nat :=
  [0x0, 0x0, 0x9025a01, 0x9034401, 0x3156701, 0x9056501, 0x9066601, 0x0, 0x0, 0x0, 0x0,
   0x901359e25302, 0x3226701, 0x0, 0x0, 0x0, 0x0, 0x0, 0x0, 0x0, 0x9145801, 0x9164401, 0x91a4401,
   0x9194801, 0x9183b01, 0x9194801, 0x91a4401, 0x0, 0x0, 0x0, 0x91e5801, 0x0]

/-- What states 2336 to 2367 do with a token. -/
def moves73 : List Nat :=
  [0x3001048914d02097c, 0x810540d700310003001030c7c, 0x61105405150310003001030c7c,
   0x30010761142020d7c, 0x300109a1142020d7c, 0xe78031008105f0003001030f7c,
   0x61105f051d0310003001030f7c, 0x45814947b8032000300103097c, 0xa3803128680550003001030e7c,
   0x28880560b200310003001030d7c, 0x46014947f0032000300103097c, 0x1860031003907f0003001030f7c,
   0xa380314f200550003001030e7c, 0xa380314f280550003001030e7c, 0x44e80331870032000300103137c,
   0x482005f0e800310003001030f7c, 0x28c80560b280310003001030d7c, 0x55907f05250310003001030f7c,
   0x8d803128e00550003001030e7c, 0x8e003128e80550003001030e7c, 0x23e00540bf00310003001030c7c,
   0x48480563e1805f0003001030d7c, 0x44e80331898032000300103137c, 0x8e803128f80550003001030e7c,
   0x8f003129000550003001030e7c, 0x23f00540bf80310003001030c7c, 0x48680563e1805f0003001030d7c,
   0x3c5805407280310003001030c7c, 0x42d80562f380310003001030d7c, 0x2e3003142f80550003001030e7c,
   0x43000542e380310003001030c7c, 0x43180562f480310003001030d7c]

/-- Where states 2336 to 2367 go after a phrase. -/
def gotos73 : List Nat :=
  [0x0, 0x9224801, 0x9224801, 0x0, 0x0, 0x9264801, 0x9264801, 0x92a6401, 0x8ba4401, 0x9305101,
   0x8c56401, 0x9313b01, 0x8ba4401, 0x8ba4401, 0x30e6701, 0x8d05001, 0x8d55101, 0x9313b01,
   0x9374701, 0x9384701, 0x9394c01, 0xa585c01, 0x3136701, 0x8e24701, 0x8e24701, 0x8e34c01,
   0xa595c01, 0x8e55601, 0x93f5f01, 0x9145801, 0x91e5801, 0x8ef5f01]

/-- What states 2368 to 2399 do with a token. -/
def moves74 : List Nat :=
  [0x43280562f500310003001030d7c, 0x2e4803143580550003001030e7c, 0x46814914b8032000300103097c,
   0xa3803129480550003001030e7c, 0x29600560b380310003001030d7c, 0x47014914c8032000300103097c,
   0xa380314f700550003001030e7c, 0xa380314f780550003001030e7c, 0x29880560b400310003001030d7c,
   0x91003129a00550003001030e7c, 0x91803129a80550003001030e7c, 0x22500540c000310003001030c7c,
   0x92003129b80550003001030e7c, 0x92803129c00550003001030e7c, 0x22600540c080310003001030c7c,
   0x402005407380310003001030c7c, 0x43980562f600310003001030d7c, 0x2e7803143b80550003001030e7c,
   0x43c00542e800310003001030c7c, 0x43d80562f700310003001030d7c, 0x43e80562f780310003001030d7c,
   0x2e9003144180550003001030e7c, 0x47814914f0032000300103097c, 0xa3803124800550003001030e7c,
   0x24980560b500310003001030d7c, 0x48014914f8032000300103097c, 0x24c00560b580310003001030d7c,
   0x94803124d80550003001030e7c, 0x95003124e00550003001030e7c, 0x2a200540c100310003001030c7c,
   0x95803124f00550003001030e7c, 0x96003124f80550003001030e7c]

/-- Where states 2368 to 2399 go after a phrase. -/
def gotos74 : List Nat :=
  [0x8ef5f01, 0x9145801, 0x9456401, 0x8ba4401, 0x9485101, 0x8c56401, 0x8ba4401, 0x8ba4401,
   0x8d55101, 0x94c4701, 0x94d4701, 0x94e4c01, 0x8e24701, 0x8e24701, 0x8e34c01, 0x8e55601,
   0x9535f01, 0x9145801, 0x91e5801, 0x8ef5f01, 0x8ef5f01, 0x9145801, 0x9596401, 0x8ba4401,
   0x95a5101, 0x8c56401, 0x8d55101, 0x95e4701, 0x95f4701, 0x9604c01, 0x8e24701, 0x8e24701]

end CellScript.Python.Grammar
