set_option autoImplicit false

/-! # Rows of the automaton, part 3 of 6

One number per state; `Grammar.Automaton` says how it is read. -/

namespace CellScript.Python.Grammar

/-- What states 960 to 991 do with a token. -/
def moves30 : List Nat :=
  [0xdd001f1b0002e07700085320084000300104690910609b7,
   0xdd001f1b0002e07700085320084000300104710910609b7,
   0xdd001f1b0002e0770008532008400030011b0802c1ae808204710920809b7,
   0x1b200871b180861b100850dd001f1b0002e0770008532008400030011b0802c1af00831ae8082047903d0c09b7,
   0xdd001f1b0002e07700085320084000300104710910609b7,
   0xdd001f1b0002e0770008532008400030011ae808204710930709b7,
   0x1b200871b180860dd001f1b0002e0770008532008400030011b0802c1af00831ae808204710940b09b7,
   0x1b200870dd001f1b0002e0770008532008400030011b0802c1af00831ae808204710950a09b7,
   0xdd001f1b0002e0770008532008400030011b0802c1af00831ae808204710960909b7,
   0x3478005000300101290970308b7, 0x3478005000300104510970308b7, 0x23d005000300104590970308b7,
   0x3498005000300101290980306b7, 0x3498005000300104510980306b7, 0x245005000300104590980306b7,
   0x34b8005000300101290990306b7, 0x34b8005000300104510990306b7, 0x24d005000300104590990306b7,
   0x1ab80881d000871cf808650f00221cf00850e0001f1ce002e0848008559008400030011ce802c1cd00831cc8082044909a1cd80810f0cb7,
   0x3001048109b0204b7, 0x1902d0003001002908d0309b8, 0x1902d0003001002908d0309b8,
   0x11902d0003001012908d0309b8, 0x3001048909b0204b7, 0x34180050003001012909c0307b7,
   0x34180050003001045109c0307b7, 0x2550050003001045909c0307b7, 0x34380050003001012909d0302b7,
   0x34380050003001045109d0302b7, 0x25d0050003001045909d0302b7,
   0xde001f1bd002e082800854380840003001046109e060cb7,
   0xde001f1bd002e082800854380840003001046909e060cb7]

/-- Where states 960 to 991 go after a phrase. -/
def gotos30 : List Nat :=
  [0x40d2f01, 0x40d2f01, 0x40d2f01, 0x40d2f01, 0x40d2f01, 0x40d2f01, 0x40d2f01, 0x40d2f01,
   0x40d2f01, 0x3ca3201, 0x3cb3201, 0x3cb3201, 0x3cd3201, 0x3ce3201, 0x3ce3201, 0x3d03201,
   0x3d13201, 0x3d13201, 0x60a3139b3058c2f03, 0x0, 0x0, 0x0, 0x0, 0x0, 0x3d93201, 0x3da3201,
   0x3da3201, 0x3dc3201, 0x3dd3201, 0x3dd3201, 0x48f2f01, 0x48f2f01]

/-- What states 992 to 1023 do with a token. -/
def moves31 : List Nat :=
  [0xde001f1bd002e082800854380840003001047109e060cb7,
   0xde001f1bd002e0828008543808400030011bd802c1bb8082047109f080cb7,
   0x1bf00871be80861be00850de001f1bd002e0828008543808400030011bd802c1bc00831bb808204790a00c0cb7,
   0xde001f1bd002e082800854380840003001047109e060cb7,
   0xde001f1bd002e0828008543808400030011bb808204710a1070cb7,
   0x1bf00871be80860de001f1bd002e0828008543808400030011bd802c1bc00831bb808204710a20b0cb7,
   0x1bf00870de001f1bd002e0828008543808400030011bd802c1bc00831bb808204710a30a0cb7,
   0xde001f1bd002e0828008543808400030011bd802c1bc00831bb808204710a4090cb7,
   0x85801f001902d000300100290a5040cb8, 0x85801f011902d000300101290a5040cb8,
   0xde801f1c1802e083000854a0084000300104610a6060db7,
   0xde801f1c1802e083000854a0084000300104690a6060db7,
   0xde801f1c1802e083000854a0084000300104710a6060db7,
   0xde801f1c1802e083000854a008400030011c2002c1c0008204710a7080db7,
   0x1c380871c300861c280850de801f1c1802e083000854a008400030011c2002c1c080831c0008204790a80c0db7,
   0xde801f1c1802e083000854a0084000300104710a6060db7,
   0xde801f1c1802e083000854a008400030011c0008204710a9070db7,
   0x1c380871c300860de801f1c1802e083000854a008400030011c2002c1c080831c0008204710aa0b0db7,
   0x1c380870de801f1c1802e083000854a008400030011c2002c1c080831c0008204710ab0a0db7,
   0xde801f1c1802e083000854a008400030011c2002c1c080831c0008204710ac090db7,
   0xdf001f1c6002e08380085500084000300104610ad060db7,
   0xdf001f1c6002e08380085500084000300104690ad060db7, 0x300101910ae020db7,
   0xdf001f1c6002e08380085500084000300104710ad060db7,
   0xdf001f1c6002e0838008550008400030011c6802c1c4808204710af080db7,
   0x1c800871c780861c700850df001f1c6002e0838008550008400030011c6802c1c500831c4808204790b00c0db7,
   0xdf001f1c6002e08380085500084000300104710ad060db7,
   0xdf001f1c6002e0838008550008400030011c4808204710b1070db7,
   0x1c800871c780860df001f1c6002e0838008550008400030011c6802c1c500831c4808204710b20b0db7,
   0x1c800870df001f1c6002e0838008550008400030011c6802c1c500831c4808204710b30a0db7,
   0xdf001f1c6002e0838008550008400030011c6802c1c500831c4808204710b4090db7, 0x300101990ae020db7]

/-- Where states 992 to 1023 go after a phrase. -/
def gotos31 : List Nat :=
  [0x48f2f01, 0x48f2f01, 0x48f2f01, 0x48f2f01, 0x48f2f01, 0x48f2f01, 0x48f2f01, 0x48f2f01,
   0x7fc1301, 0x7fd1301, 0x4b02f01, 0x4b02f01, 0x4b02f01, 0x4b02f01, 0x4b02f01, 0x4b02f01,
   0x4b02f01, 0x4b02f01, 0x4b02f01, 0x4b02f01, 0x4ce2f01, 0x4ce2f01, 0x0, 0x4ce2f01, 0x4ce2f01,
   0x4ce2f01, 0x4ce2f01, 0x4ce2f01, 0x4ce2f01, 0x4ce2f01, 0x4ce2f01, 0x0]

/-- What states 1024 to 1055 do with a token. -/
def moves32 : List Nat :=
  [0x300101a10ae020db7, 0x300101a90ae020db7, 0x300101b90ae020db7,
   0x1ab00881cc00871cb808650f00221cb00850dc801f1ca002e0840008526808400030011ca802c1c900831c8808204490b51c980810f0eb7,
   0x34d8005000300101290b60307b7, 0x34d8005000300104510b60307b7, 0x265005000300104590b60307b7,
   0x1ab80881d000871cf808650f00221cf00850de001f1ce002e0848008543808400030011ce802c1cd00831cc808204490b71cd80810f0cb7,
   0x1aa80881c800871c7808650f00221c700850de801f1c6002e083800854a008400030011c6802c1c500831c4808204490b81c580810f0db7,
   0x3001012908d0209b7, 0x3001002908d0209b7, 0x3001002908d0209b7, 0x3001049108d0209b7,
   0x3001049908d0209b7, 0x300104a108d0209b7, 0x300104a908d0209b7, 0x300104b108d0209b7,
   0x300104b908d0209b7, 0x300104c108d0209b7, 0x300104c908d0209b7,
   0xf90042001902d0003001002909c040eb8, 0xf90042001902d0003001002909c040eb8,
   0xf98042011902d0003001012909c040eb8, 0x300104d108d0209b7, 0x300104d908d0209b7,
   0x300104e108d0209b7, 0x300104e908d0209b7, 0x300104f108d0209b7, 0x300104f908d0209b7,
   0x3001050108d0209b7, 0x3001050908d0209b7, 0x3001051108d0209b7]

/-- Where states 1024 to 1055 go after a phrase. -/
def gotos32 : List Nat :=
  [0x0, 0x0, 0x0, 0x60431393305582f03, 0x4053201, 0x4063201, 0x4063201, 0x60a3139b3058c2f03,
   0x6083138b304ce2f03, 0x0, 0x0, 0x0, 0x0, 0x0, 0x0, 0x0, 0x0, 0x0, 0x0, 0x0, 0x0, 0x0, 0x0, 0x0,
   0x0, 0x0, 0x0, 0x0, 0x0, 0x0, 0x0, 0x0]

/-- What states 1056 to 1087 do with a token. -/
def moves33 : List Nat :=
  [0x3001051908d0209b7, 0x3001052108d0209b7, 0x3001052908d0209b7,
   0x11902d000300101790bb01c10ba02150b9050cb8, 0x3001016108d0209b7,
   0x85001f001902d000300100290bc0409b8, 0x85001f011902d000300101290bc0409b8,
   0xdc801f1b4802e08180085268084000300104610bd060eb7,
   0xdc801f1b4802e08180085268084000300104690bd060eb7, 0x1902d000300100310bf01d50be040cb8,
   0x1902d000300100310bf01d50be040cb8, 0x3001017108d0209b7, 0x3001018908d0209b7,
   0xdc801f1b4802e08180085268084000300104710bd060eb7,
   0xdc801f1b4802e0818008526808400030011b5002c1b3008204710c0080eb7,
   0x1b680871b600861b580850dc801f1b4802e0818008526808400030011b5002c1b380831b3008204790c10c0eb7,
   0xdc801f1b4802e08180085268084000300104710bd060eb7,
   0xdc801f1b4802e0818008526808400030011b3008204710c2070eb7,
   0x1b680871b600860dc801f1b4802e0818008526808400030011b5002c1b380831b3008204710c30b0eb7,
   0x1b680870dc801f1b4802e0818008526808400030011b5002c1b380831b3008204710c40a0eb7,
   0xdc801f1b4802e0818008526808400030011b5002c1b380831b3008204710c5090eb7,
   0x16d031001902d000300100290c6040db8, 0x16d031001902d000300100290c6040db8,
   0x300101d506d003103d0309b7, 0x300101d506d003103d0309b7, 0x1902d00030010029098030db8,
   0x1902d00030010029098030db8, 0x11902d00030010129098030db8,
   0xdd801f1b8802e082000853b0084000300104610c7060fb7,
   0xdd801f1b8802e082000853b0084000300104690c7060fb7, 0x1902d000300100310bf01d50c8040db8,
   0x1902d000300100310bf01d50c8040db8]

/-- Where states 1056 to 1087 go after a phrase. -/
def gotos33 : List Nat :=
  [0x0, 0x0, 0x0, 0x0, 0x0, 0x77c1301, 0x77d1301, 0x50c2f01, 0x50c2f01, 0x0, 0x0, 0x0, 0x0,
   0x50c2f01, 0x50c2f01, 0x50c2f01, 0x50c2f01, 0x50c2f01, 0x50c2f01, 0x50c2f01, 0x50c2f01, 0x0,
   0x0, 0x0, 0x0, 0x0, 0x0, 0x0, 0x5282f01, 0x5282f01, 0x0, 0x0]

/-- What states 1088 to 1119 do with a token. -/
def moves34 : List Nat :=
  [0x11902d000300101790bf02150c8040db8, 0x3001019108d0209b7,
   0xdd801f1b8802e082000853b0084000300104710c7060fb7,
   0xdd801f1b8802e082000853b008400030011b9002c1b7008204710c9080fb7,
   0x1ba80871ba00861b980850dd801f1b8802e082000853b008400030011b9002c1b780831b70082047904e0c0fb7,
   0xdd801f1b8802e082000853b0084000300104710c7060fb7,
   0xdd801f1b8802e082000853b008400030011b7008204710ca070fb7,
   0x1ba80871ba00860dd801f1b8802e082000853b008400030011b9002c1b780831b7008204710cb0b0fb7,
   0x1ba80870dd801f1b8802e082000853b008400030011b9002c1b780831b7008204710cc0a0fb7,
   0xdd801f1b8802e082000853b008400030011b9002c1b780831b7008204710cd090fb7, 0x3001019908d0209b7,
   0x300101a108d0209b7, 0x300101a908d0209b7, 0x300101b908d0209b7,
   0x1dd031011902d000300101290c6040db8, 0x3001021506d017903d0309b7,
   0x86001f001902d000300100290ce040eb8, 0x86001f011902d000300101290ce040eb8, 0x300104810cf0208b7,
   0x300104890cf0208b7, 0x300104810d00206b7, 0x1902d00030010029097030cb8,
   0x1902d00030010029097030cb8, 0x11902d00030010129097030cb8, 0x300104890d00206b7,
   0x300104810d10206b7, 0xdf801f1ca002e08400085560084000300104610d2060eb7,
   0xdf801f1ca002e08400085560084000300104690d2060eb7, 0x300104890d10206b7,
   0xdf801f1ca002e08400085560084000300104710d2060eb7,
   0xdf801f1ca002e0840008556008400030011ca802c1c8808204710d3080eb7,
   0x1cc00871cb80861cb00850df801f1ca002e0840008556008400030011ca802c1c900831c8808204790d40c0eb7]

/-- Where states 1088 to 1119 go after a phrase. -/
def gotos34 : List Nat :=
  [0x0, 0x0, 0x5282f01, 0x5282f01, 0x5282f01, 0x5282f01, 0x5282f01, 0x5282f01, 0x5282f01,
   0x5282f01, 0x0, 0x0, 0x0, 0x0, 0x0, 0x0, 0x7a11301, 0x7a21301, 0x0, 0x0, 0x0, 0x0, 0x0, 0x0,
   0x0, 0x0, 0x5582f01, 0x5582f01, 0x0, 0x5582f01, 0x5582f01, 0x5582f01]

/-- What states 1120 to 1151 do with a token. -/
def moves35 : List Nat :=
  [0xdf801f1ca002e08400085560084000300104710d2060eb7,
   0xdf801f1ca002e0840008556008400030011c8808204710d5070eb7,
   0x1cc00871cb80860df801f1ca002e0840008556008400030011ca802c1c900831c8808204710d60b0eb7,
   0x1cc00870df801f1ca002e0840008556008400030011ca802c1c900831c8808204710d70a0eb7,
   0xdf801f1ca002e0840008556008400030011ca802c1c900831c8808204710d8090eb7,
   0x34f8005000300101290d90308b7, 0x1902d00030010029099030db8, 0x1902d00030010029099030db8,
   0x11902d00030010129099030db8, 0x34f8005000300104510d90308b7, 0x26d005000300104590d90308b7,
   0x1902d0003001016d04d00290da040eb8, 0x1902d0003001016d04d00290da040eb8,
   0x77801f001902d000300100290db040fb8, 0x77801f011902d000300101290db040fb8,
   0x1902d000300100310bb01d50dc040eb8, 0x1902d000300100310bb01d50dc040eb8,
   0x11902d000300101790bb02150dc040eb8, 0x11902d000300101dd04d01290da040eb8, 0x300104810dd0207b7,
   0x1902d0003001016d04f00290da040cb8, 0x1902d0003001016d04f00290da040cb8,
   0x1902d0003001002909d030fb8, 0x1902d0003001002909d030fb8, 0x11902d0003001012909d030fb8,
   0x300104890dd0207b7, 0x11902d000300101790bb02150be040cb8, 0x300101910de020eb7,
   0x300101990de020eb7, 0x300101a10de020eb7, 0x300101a90de020eb7, 0x300101b90de020eb7]

/-- Where states 1120 to 1151 go after a phrase. -/
def gotos35 : List Nat :=
  [0x5582f01, 0x5582f01, 0x5582f01, 0x5582f01, 0x5582f01, 0x4693201, 0x0, 0x0, 0x0, 0x46a3201,
   0x46a3201, 0x0, 0x0, 0x7bf1301, 0x7c01301, 0x0, 0x0, 0x0, 0x0, 0x0, 0x0, 0x0, 0x0, 0x0, 0x0,
   0x0, 0x0, 0x0, 0x0, 0x0, 0x0, 0x0]

/-- What states 1152 to 1183 do with a token. -/
def moves36 : List Nat :=
  [0x11902d000300101dd04f01290da040cb8, 0x300104810df0202b7, 0x30010161098020db7,
   0x85801f001902d000300100290e0040cb8, 0x85801f011902d000300101290e0040cb8, 0x300104890df0202b7,
   0x30010171098020db7, 0x30010189098020db7, 0x30010129097020cb7, 0x1902d0003001002909c030eb8,
   0x1902d0003001002909c030eb8, 0x11902d0003001012909c030eb8, 0x30010029097020cb7,
   0x30010029097020cb7, 0x30010491097020cb7, 0x30010499097020cb7, 0x300104a1097020cb7,
   0x300104a9097020cb7, 0x300104b1097020cb7, 0x300104b9097020cb7, 0x300104c1097020cb7,
   0x300104c9097020cb7, 0x300104d1097020cb7, 0x300104d9097020cb7, 0x300104e1097020cb7,
   0x300104e9097020cb7, 0x300104f1097020cb7, 0x300104f9097020cb7, 0x30010501097020cb7,
   0x30010509097020cb7, 0x30010511097020cb7, 0x30010519097020cb7]

/-- Where states 1152 to 1183 go after a phrase. -/
def gotos36 : List Nat :=
  [0x0, 0x0, 0x0, 0x7fc1301, 0x7fd1301, 0x0, 0x0, 0x0, 0x0, 0x0, 0x0, 0x0, 0x0, 0x0, 0x0, 0x0,
   0x0, 0x0, 0x0, 0x0, 0x0, 0x0, 0x0, 0x0, 0x0, 0x0, 0x0, 0x0, 0x0, 0x0, 0x0, 0x0]

/-- What states 1184 to 1215 do with a token. -/
def moves37 : List Nat :=
  [0x30010521097020cb7, 0x30010529097020cb7, 0x30010129098020db7, 0x205031000300101610c6030db7,
   0x1dd031000300101290c6030db7, 0x20d031000300101710c6030db7, 0x300101d506d00310b0030db7,
   0x300101d506d00310b0030db7, 0x300101790bf02150be030cb7, 0x1902d000300100290b6030eb8,
   0x1902d000300100290b6030eb8, 0x11902d000300101290b6030eb8, 0x21d031000300101890c6030db7,
   0x30010029098020db7, 0x30010029098020db7, 0x30010491098020db7, 0x30010499098020db7,
   0x300104a1098020db7, 0x300104a9098020db7, 0x300104b1098020db7, 0x300104b9098020db7,
   0x300104c1098020db7, 0x30010191097020cb7, 0x300104c9098020db7, 0x300104d1098020db7,
   0x300104d9098020db7, 0x300104e1098020db7, 0x300104e9098020db7, 0x300104f1098020db7,
   0x300104f9098020db7, 0x30010501098020db7, 0x30010199097020cb7]

/-- Where states 1184 to 1215 go after a phrase. -/
def gotos37 : List Nat :=
  [0x0, 0x0, 0x0, 0x0, 0x0, 0x0, 0x0, 0x0, 0x0, 0x0, 0x0, 0x0, 0x0, 0x0, 0x0, 0x0, 0x0, 0x0, 0x0,
   0x0, 0x0, 0x0, 0x0, 0x0, 0x0, 0x0, 0x0, 0x0, 0x0, 0x0, 0x0, 0x0]

/-- What states 1216 to 1247 do with a token. -/
def moves38 : List Nat :=
  [0x30010509098020db7, 0x30010511098020db7, 0x30010519098020db7, 0x300101a1097020cb7,
   0x300101a9097020cb7, 0x30010521098020db7, 0x30010529098020db7, 0x300101b9097020cb7,
   0x30010129099020db7, 0x300101790bf02150c8030db7, 0x30010161097020cb7, 0x30010029099020db7,
   0x30010029099020db7, 0x30010491099020db7, 0x30010499099020db7, 0x300104a1099020db7,
   0x300104a9099020db7, 0x30010171097020cb7, 0x30010189097020cb7, 0x300104b1099020db7,
   0x300104b9099020db7, 0x300104c1099020db7, 0x300104c9099020db7, 0x300104d1099020db7,
   0x300104d9099020db7, 0x300104e1099020db7, 0x300104e9099020db7, 0x300104f1099020db7,
   0x300104f9099020db7, 0x30010501099020db7, 0x30010509099020db7, 0x30010511099020db7]

/-- Where states 1216 to 1247 go after a phrase. -/
def gotos38 : List Nat :=
  [0x0, 0x0, 0x0, 0x0, 0x0, 0x0, 0x0, 0x0, 0x0, 0x0, 0x0, 0x0, 0x0, 0x0, 0x0, 0x0, 0x0, 0x0, 0x0,
   0x0, 0x0, 0x0, 0x0, 0x0, 0x0, 0x0, 0x0, 0x0, 0x0, 0x0, 0x0, 0x0]

/-- What states 1248 to 1279 do with a token. -/
def moves39 : List Nat :=
  [0x30010519099020db7, 0x30010521099020db7, 0x30010529099020db7, 0x30010191099020db7,
   0x30010199099020db7, 0x300101a1099020db7, 0x300101a9099020db7, 0x300101b9099020db7,
   0x300104810e10207b7, 0x3001021506d01790b0030db7, 0x30010161099020db7,
   0xe0001f1ce002e08480085590084000300104610e2060cb7,
   0xe0001f1ce002e08480085590084000300104690e2060cb7, 0x300104890e10207b7, 0x30010171099020db7,
   0x30010189099020db7, 0xe0001f1ce002e08480085590084000300104710e2060cb7,
   0xe0001f1ce002e0848008559008400030011ce802c1cc808204710e3080cb7,
   0x1d000871cf80861cf00850e0001f1ce002e0848008559008400030011ce802c1cd00831cc808204790e40c0cb7,
   0xe0001f1ce002e08480085590084000300104710e2060cb7,
   0xe0001f1ce002e0848008559008400030011cc808204710e5070cb7,
   0x1d000871cf80860e0001f1ce002e0848008559008400030011ce802c1cd00831cc808204710e60b0cb7,
   0x1d000870e0001f1ce002e0848008559008400030011ce802c1cd00831cc808204710e70a0cb7,
   0xe0001f1ce002e0848008559008400030011ce802c1cd00831cc808204710e8090cb7,
   0x300101d506d00310a0030cb7, 0x300101d506d00310a0030cb7, 0x300101d506d00310a8030db7,
   0x300101d506d00310a8030db7, 0x3001021506d01790a0030cb7, 0x3001021506d01790a8030db7,
   0x3001016109d020fb7, 0x3001017109d020fb7]

/-- Where states 1248 to 1279 go after a phrase. -/
def gotos39 : List Nat :=
  [0x0, 0x0, 0x0, 0x0, 0x0, 0x0, 0x0, 0x0, 0x0, 0x0, 0x0, 0x58c2f01, 0x58c2f01, 0x0, 0x0, 0x0,
   0x58c2f01, 0x58c2f01, 0x58c2f01, 0x58c2f01, 0x58c2f01, 0x58c2f01, 0x58c2f01, 0x58c2f01, 0x0,
   0x0, 0x0, 0x0, 0x0, 0x0, 0x0, 0x0]

/-- What states 1280 to 1311 do with a token. -/
def moves40 : List Nat :=
  [0x3001018909d020fb7, 0x3001012909c020eb7, 0x3001020504d01610da030eb7,
   0x300101dd04d01290da030eb7, 0x3001020d04d01710da030eb7, 0x300101d506d003104e030fb7,
   0x300101d506d003104e030fb7, 0x300101790bb02150dc030eb7, 0x3001021d04d01890da030eb7,
   0x3001002909c020eb7, 0x3001002909c020eb7, 0x3001049109c020eb7, 0x3001049909c020eb7,
   0x300104a109c020eb7, 0x300104a909c020eb7, 0x300101c10ea01790e902150720409b7,
   0x300104b109c020eb7, 0x300104b909c020eb7, 0x300104c109c020eb7, 0x300104c909c020eb7,
   0xf90042001902d000300100290dc040eb8, 0xf90042001902d000300100290dc040eb8,
   0xf98042011902d000300101290dc040eb8, 0x300104d109c020eb7, 0x300104d909c020eb7,
   0x300104e109c020eb7, 0x300104e909c020eb7, 0x300104f109c020eb7, 0x300104f909c020eb7,
   0x3001050109c020eb7, 0x3001050909c020eb7, 0x3001051109c020eb7]

/-- Where states 1280 to 1311 go after a phrase. -/
def gotos40 : List Nat :=
  [0x0, 0x0, 0x0, 0x0, 0x0, 0x0, 0x0, 0x0, 0x0, 0x0, 0x0, 0x0, 0x0, 0x0, 0x0, 0x0, 0x0, 0x0, 0x0,
   0x0, 0x0, 0x0, 0x0, 0x0, 0x0, 0x0, 0x0, 0x0, 0x0, 0x0, 0x0, 0x0]

/-- What states 1312 to 1343 do with a token. -/
def moves41 : List Nat :=
  [0x3001051909c020eb7, 0x3001052109c020eb7, 0x3001052909c020eb7, 0x3001012909d020fb7,
   0x3001021506d017904e030fb7, 0x3001002909d020fb7, 0x3001002909d020fb7, 0x3001049109d020fb7,
   0x3001049909d020fb7, 0x300104a109d020fb7, 0x300104a909d020fb7, 0x300104b109d020fb7,
   0x300104b909d020fb7, 0x300104c109d020fb7, 0x300104c909d020fb7, 0x300104d109d020fb7,
   0x300104d909d020fb7, 0x300104e109d020fb7, 0x300104e909d020fb7, 0x300104f109d020fb7,
   0x300104f909d020fb7, 0x3001050109d020fb7, 0x3001050909d020fb7, 0x3001051109d020fb7,
   0x3001051909d020fb7, 0x3001052109d020fb7, 0x3001052909d020fb7, 0x3001020504f01610da030cb7,
   0x300101dd04f01290da030cb7, 0x3001020d04f01710da030cb7, 0x300101610b6020eb7,
   0x3001021d04f01890da030cb7]

/-- Where states 1312 to 1343 go after a phrase. -/
def gotos41 : List Nat :=
  [0x0, 0x0, 0x0, 0x0, 0x0, 0x0, 0x0, 0x0, 0x0, 0x0, 0x0, 0x0, 0x0, 0x0, 0x0, 0x0, 0x0, 0x0, 0x0,
   0x0, 0x0, 0x0, 0x0, 0x0, 0x0, 0x0, 0x0, 0x0, 0x0, 0x0, 0x0, 0x0]

/-- What states 1344 to 1375 do with a token. -/
def moves42 : List Nat :=
  [0x300101710b6020eb7, 0x300101890b6020eb7, 0x300101c10eb01790e90215072040eb7,
   0x3001019109d020fb7, 0x3001019909d020fb7, 0x300101a109d020fb7, 0x300101a909d020fb7,
   0x300101b909d020fb7, 0x3001016109c020eb7, 0x3001017109c020eb7, 0x3001018909c020eb7,
   0x300101d506d00310d4030eb7, 0x300101d506d00310d4030eb7, 0x3001002906d00210500309b6,
   0x3001002906d00210500309b6, 0x300101290b6020eb7, 0x300101d506d00310c1030eb7,
   0x300101d506d00310c1030eb7, 0x1902d000300100290d9030cb8, 0x1902d000300100290d9030cb8,
   0x11902d000300101290d9030cb8, 0x300100290b6020eb7, 0x300100290b6020eb7, 0x300104910b6020eb7,
   0x300104990b6020eb7, 0x300104a10b6020eb7, 0x300104a90b6020eb7, 0x300104b10b6020eb7,
   0x300104b90b6020eb7, 0x300104c10b6020eb7, 0x300104c90b6020eb7, 0x300104d10b6020eb7]

/-- Where states 1344 to 1375 go after a phrase. -/
def gotos42 : List Nat :=
  [0x0, 0x0, 0x0, 0x0, 0x0, 0x0, 0x0, 0x0, 0x0, 0x0, 0x0, 0x0, 0x0, 0x0, 0x0, 0x0, 0x0, 0x0, 0x0,
   0x0, 0x0, 0x0, 0x0, 0x0, 0x0, 0x0, 0x0, 0x0, 0x0, 0x0, 0x0, 0x0]

/-- What states 1376 to 1407 do with a token. -/
def moves43 : List Nat :=
  [0x300104d90b6020eb7, 0x300104e10b6020eb7, 0x300104e90b6020eb7, 0x300104f10b6020eb7,
   0x300104f90b6020eb7, 0x300105010b6020eb7, 0x300105090b6020eb7, 0x300105110b6020eb7,
   0x300105190b6020eb7, 0x300105210b6020eb7, 0x300105290b6020eb7, 0x300101910b6020eb7,
   0x300101990b6020eb7, 0x300101a10b6020eb7, 0x300101a90b6020eb7, 0x300101b90b6020eb7,
   0x300104810ec0208b7, 0x3001021506d01790d4030eb7, 0x300104890ec0208b7,
   0x3001016106d01210500309b6, 0x3001012906d01210500309b6, 0x3001017106d01690500309b6,
   0x3001021506d01790c1030eb7, 0x3001018906d01810500309b6, 0x300101c10ed01790e90215072040fb7,
   0x300101c10ba01790e90215072040cb7, 0x1902d000300101d50dc030eb8, 0x1902d000300101d50dc030eb8,
   0x11902d000300102150dc030eb8, 0x1902d000300101d50be030cb8, 0x1902d000300101d50be030cb8,
   0x11902d000300102150be030cb8]

/-- Where states 1376 to 1407 go after a phrase. -/
def gotos43 : List Nat :=
  [0x0, 0x0, 0x0, 0x0, 0x0, 0x0, 0x0, 0x0, 0x0, 0x0, 0x0, 0x0, 0x0, 0x0, 0x0, 0x0, 0x0, 0x0, 0x0,
   0x0, 0x0, 0x0, 0x0, 0x0, 0x0, 0x0, 0x0, 0x0, 0x0, 0x0, 0x0, 0x0]

/-- What states 1408 to 1439 do with a token. -/
def moves44 : List Nat :=
  [0x1902d000300101d50c8030db8, 0x1902d000300101d50c8030db8, 0x11902d000300102150c8030db8,
   0x300101610d9020cb7, 0x300101710d9020cb7, 0x300101890d9020cb7, 0x300101290d9020cb7,
   0x300101d506d00310e4030cb7, 0x300101d506d00310e4030cb7, 0x300100290d9020cb7,
   0x300100290d9020cb7, 0x300104910d9020cb7, 0x300104990d9020cb7, 0x300104a10d9020cb7,
   0x300104a90d9020cb7, 0x300104b10d9020cb7, 0x300104b90d9020cb7, 0x300104c10d9020cb7,
   0x300104c90d9020cb7, 0x300104d10d9020cb7, 0x300104d90d9020cb7, 0x300104e10d9020cb7,
   0x300104e90d9020cb7, 0x300104f10d9020cb7, 0x300104f90d9020cb7, 0x300105010d9020cb7,
   0x300105090d9020cb7, 0x300105110d9020cb7, 0x300105190d9020cb7, 0x300105210d9020cb7,
   0x300105290d9020cb7, 0x300101910d9020cb7]

/-- Where states 1408 to 1439 go after a phrase. -/
def gotos44 : List Nat :=
  [0x0, 0x0, 0x0, 0x0, 0x0, 0x0, 0x0, 0x0, 0x0, 0x0, 0x0, 0x0, 0x0, 0x0, 0x0, 0x0, 0x0, 0x0, 0x0,
   0x0, 0x0, 0x0, 0x0, 0x0, 0x0, 0x0, 0x0, 0x0, 0x0, 0x0, 0x0, 0x0]

end CellScript.Python.Grammar
