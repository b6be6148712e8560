set_option autoImplicit false

/-! # Rows of the automaton, part 6 of 6

One number per state; `Grammar.Automaton` says how it is read. -/

namespace CellScript.Python.Grammar

/-- What states 2400 to 2431 do with a token. -/
def moves75 : List Nat :=
  [0x2a300540c180310003001030c7c, 0x3d5805407480310003001030c7c, 0x44500562f880310003001030d7c,
   0x2ec003144700550003001030e7c, 0x44780542ec80310003001030c7c, 0x44900562f980310003001030d7c,
   0x44a00562fa00310003001030d7c, 0x2ed803144d00550003001030e7c, 0x4881491518032000300103097c,
   0xa3803125880550003001030e7c, 0x25a00560b600310003001030d7c, 0x4901491520032000300103097c,
   0x25d00560b680310003001030d7c, 0x98003125e80550003001030e7c, 0x98803125f00550003001030e7c,
   0x25f80540c200310003001030c7c, 0x99003126080550003001030e7c, 0x99803126100550003001030e7c,
   0x26200540c280310003001030c7c, 0x4981494f88032000300103097c, 0xa3803126780550003001030e7c,
   0x26a00560b700310003001030d7c, 0x4a01494f90032000300103097c, 0x26c80560b780310003001030d7c,
   0x9b803126e00550003001030e7c, 0x9c003126e80550003001030e7c, 0x1ff80540c300310003001030c7c,
   0x9c803126f80550003001030e7c, 0x9d003127000550003001030e7c, 0x20080540c380310003001030c7c,
   0x4a81491540032000300103097c, 0xa380312ac80550003001030e7c]

/-- Where states 2400 to 2431 go after a phrase. -/
def gotos75 : List Nat :=
  [0x8e34c01, 0x8e55601, 0x9655f01, 0x9145801, 0x91e5801, 0x8ef5f01, 0x8ef5f01, 0x9145801,
   0x96b6401, 0x8ba4401, 0x96c5101, 0x8c56401, 0x8d55101, 0x9704701, 0x9714701, 0x9724c01,
   0x8e24701, 0x8e24701, 0x8e34c01, 0x9766401, 0x8ba4401, 0x9775101, 0x8c56401, 0x8d55101,
   0x97b4701, 0x97c4701, 0x97d4c01, 0x8e24701, 0x8e24701, 0x8e34c01, 0x9816401, 0x8ba4401]

/-- What states 2432 to 2463 do with a token. -/
def moves76 : List Nat :=
  [0x2ae00560b800310003001030d7c, 0x4b01491548032000300103097c, 0x2b080560b880310003001030d7c,
   0x9e80312b200550003001030e7c, 0x9f00312b280550003001030e7c, 0x27200540c400310003001030c7c,
   0x9f80312b380550003001030e7c, 0xa000312b400550003001030e7c, 0x27300540c480310003001030c7c,
   0x4b81491568032000300103097c, 0xa380312c680550003001030e7c, 0x2c800560b900310003001030d7c,
   0x4c01491570032000300103097c, 0x2ca80560b980310003001030d7c, 0xa180312cc00550003001030e7c,
   0xa200312cc80550003001030e7c, 0x2b600540c500310003001030c7c, 0xa280312cd80550003001030e7c,
   0xa300312ce00550003001030e7c, 0x2b700540c580310003001030c7c, 0x2d000540c600310003001030c7c,
   0x2d100540c680310003001030c7c, 0x2d600540c700310003001030c7c, 0x2d700540c780310003001030c7c,
   0x3c805f07980080003001030f7c, 0xd7807f18480310003001030f7c, 0xd8007f18480310003001030f7c,
   0x790085027805f51400840003001040fb6, 0x790085028005f51400840003001040fb6,
   0x790085028805f51400840003001040fb6, 0x790085029005f51400840003001040fb6,
   0xda007f18480310003001030f7c]

/-- Where states 2432 to 2463 go after a phrase. -/
def gotos76 : List Nat :=
  [0x9825101, 0x8c56401, 0x8d55101, 0x9864701, 0x9874701, 0x9884c01, 0x8e24701, 0x8e24701,
   0x8e34c01, 0x98c6401, 0x8ba4401, 0x98d5101, 0x8c56401, 0x8d55101, 0x9914701, 0x9924701,
   0x9934c01, 0x8e24701, 0x8e24701, 0x8e34c01, 0x9954c01, 0x8e34c01, 0x9974c01, 0x8e34c01,
   0xaba5b01, 0x92b3b01, 0x92b3b01, 0x0, 0x0, 0x0, 0x0, 0x92b3b01]

/-- What states 2464 to 2495 do with a token. -/
def moves77 : List Nat :=
  [0xda807f18480310003001030f7c, 0xea007f18480310003001030f7c, 0xea807f18480310003001030f7c,
   0x30010a3105d02097c, 0x30010a3905d02097c, 0x30010a4105d02097c, 0x300105e105d02097c,
   0x30010a4905d02097c, 0x3001064105d02097c, 0x3001064905d02097c, 0x30010a5102b020f7c,
   0x300109b102b020f7c, 0x300109b102b020f7c, 0x300105f105d02097c, 0x14c00310003001020f7c,
   0x7a814e02e805f0003001030fb9, 0x32c00080003001020f7c, 0x300109e105d02097c, 0x30010a5905d02097c,
   0x30010a6105d02097c, 0x30010a6905d02097c, 0x30010a7105d02097c, 0x30010a7905d02097c,
   0x30010a8105d02097c, 0x30010a8904d020e7c, 0x30010a9104d020e7c, 0x300106e904d020e7c,
   0x7b014e030005f0003001030fb9, 0x32c00080003001020f7c, 0x300109f902b020f7c, 0x30010a9914f020fb9,
   0x7b814e032005f0003001030fb9]

/-- Where states 2464 to 2495 go after a phrase. -/
def gotos77 : List Nat :=
  [0x92b3b01, 0x92b3b01, 0x92b3b01, 0x0, 0x0, 0x0, 0x0, 0x0, 0x0, 0x0, 0x0, 0x0, 0x0, 0x0,
   0x7783b01, 0x0, 0x9bf6001, 0x0, 0x0, 0x0, 0x0, 0x0, 0x0, 0x0, 0x0, 0x0, 0x0, 0x0, 0x9c36001,
   0x0, 0x0, 0x0]

/-- What states 2496 to 2527 do with a token. -/
def moves78 : List Nat :=
  [0x30010a01131020d7c, 0x30010a0902b020f7c, 0x30010aa115002127c, 0x7c014e034005f0003001030fb9,
   0x30010aa914f020fb9, 0x30010ab105d02097c, 0x3001073904d020e7c, 0x30010ab904d020e7c,
   0x300106a904f020c7c, 0x30010ac105d02097c, 0x30010ac905d02097c, 0x30013e90151020f7c,
   0x300139300f1020f7c, 0x30013ef80f1020f7c, 0x30013f200f1020f7c, 0x30010ad115002127c,
   0x30010ad9131020d7c, 0x30010ae115002127c, 0x30010ae915002127c, 0x30010af115002127c,
   0x30010af915002127c, 0x30010b0115002127c, 0x30010b0915002127c, 0x30010b1115002127c,
   0x30010b1915002127c, 0x30010b2115002127c, 0x30010b2915002127c, 0x30010b3115002127c,
   0x3001012104d020e7c, 0x30010a5104d020e7c, 0x300109b104d020e7c, 0x300105f104d020e7c]

/-- Where states 2496 to 2527 go after a phrase. -/
def gotos78 : List Nat :=
  [0x0, 0x0, 0x0, 0x0, 0x0, 0x0, 0x0, 0x0, 0x0, 0x0, 0x0, 0x0, 0x0, 0x0, 0x0, 0x0, 0x0, 0x0, 0x0,
   0x0, 0x0, 0x0, 0x0, 0x0, 0x0, 0x0, 0x0, 0x0, 0x0, 0x0, 0x0, 0x0]

/-- What states 2528 to 2559 do with a token. -/
def moves79 : List Nat :=
  [0x3001056904d020e7c, 0x3001055904d020e7c, 0x3001096904d020e7c, 0x300109e904d020e7c,
   0x30010a8904f020c7c, 0x30010a9104f020c7c, 0x300106e904f020c7c, 0x300109f904d020e7c,
   0x30010a0904d020e7c, 0x3001012104f020c7c, 0x300105f104f020c7c, 0x3001056104f020c7c,
   0x3001056904f020c7c, 0x3001055904f020c7c, 0x30010a89131020d7c, 0x30010a91131020d7c,
   0x300106e9131020d7c, 0x300101c915002127c, 0x300101d115002127c, 0x3001023115002127c,
   0x300101d915002127c, 0x3001023915002127c, 0x300142b0151020f7c, 0x30013c780f1020f7c,
   0x300142e80f1020f7c, 0x300143080f1020f7c, 0x30014370151020f7c, 0x30013ce00f1020f7c,
   0x300143a80f1020f7c, 0x300143c80f1020f7c, 0x300140a8151020f7c, 0x30013d600f1020f7c]

/-- Where states 2528 to 2559 go after a phrase. -/
def gotos79 : List Nat :=
  [0x0, 0x0, 0x0, 0x0, 0x0, 0x0, 0x0, 0x0, 0x0, 0x0, 0x0, 0x0, 0x0, 0x0, 0x0, 0x0, 0x0, 0x0, 0x0,
   0x0, 0x0, 0x0, 0x0, 0x0, 0x0, 0x0, 0x0, 0x0, 0x0, 0x0, 0x0, 0x0]

/-- What states 2560 to 2591 do with a token. -/
def moves80 : List Nat :=
  [0x300144600f1020f7c, 0x300144800f1020f7c, 0x86814e03c005f0003001030fb9,
   0x87014e03d805f0003001030fb9, 0x87814e03f805f0003001030fb9, 0x88014e041805f0003001030fb9,
   0x32c00080003001020f7c, 0x32c00080003001020f7c, 0x2b805f0003001020f7c, 0x41780250003001020f7c,
   0x41800250003001020f7c, 0x41880250003001020f7c, 0x3dc00250003001020f7c, 0x20040003001020f7c,
   0xf1002d0003001020f86, 0x3de00060003001020f7c, 0x38c00060003001020f7c, 0x32400550003001020e7c,
   0x20780550003001020e7c, 0x41c80250003001020f7c, 0xe4007f0003001020f7c, 0x2d005f0003001020f7c,
   0x3df00250003001020f7c, 0x32480540003001020c7c, 0x20800540003001020c7c, 0x20880560003001020d7c,
   0x20900560003001020d7c, 0xf6005f0003001020f7c, 0xb3905f0003001020f7c, 0x13900250003001020f7c,
   0x306007f0003001020f7c, 0x50980190003001020f7c]

/-- Where states 2560 to 2591 go after a phrase. -/
def gotos80 : List Nat :=
  [0x0, 0x0, 0x0, 0x0, 0x0, 0x0, 0xa046001, 0xa056001, 0x0, 0x0, 0x0, 0x0, 0x0, 0x0, 0x0, 0x0,
   0x0, 0x0, 0x0, 0x0, 0x0, 0x0, 0x0, 0x0, 0x0, 0x0, 0x0, 0x0, 0x0, 0x0, 0x0, 0x0]

/-- What states 2592 to 2623 do with a token. -/
def moves81 : List Nat :=
  [0x3e200250003001020f7c, 0x46580250003001020f7c, 0xb410060003001020f7c, 0x16a00150003001020f7c,
   0x20b80550003001020e7c, 0xe5007f0003001020f7c, 0x2e005f0003001020f7c, 0x46a00250003001020f7c,
   0x3e300250003001020f7c, 0x2f805f0003001020f7c, 0x20c00540003001020c7c, 0x20d00560003001020d7c,
   0x20d80560003001020d7c, 0x20e00550003001020e7c, 0x3ac80560003001020d7c, 0xcf807f0003001020f7c,
   0x30805f0003001020f7c, 0x31805f0003001020f7c, 0xf105f0003001020f7c, 0x4e200550003001020e7c,
   0x32805f0003001020f7c, 0x3b080560003001020d7c, 0x3b100560003001020d7c, 0x4e480550003001020e7c,
   0x4e500550003001020e7c, 0xd1007f0003001020f7c, 0x33005f0003001020f7c, 0x33805f0003001020f7c,
   0xb4905f0003001020f7c, 0x3b500560003001020d7c, 0xb5105f0003001020f7c, 0xd3005f0003001020f7c]

/-- Where states 2592 to 2623 go after a phrase. -/
def gotos81 : List Nat :=
  [0x0, 0x0, 0x0, 0x0, 0x0, 0x0, 0x0, 0x0, 0x0, 0x0, 0x0, 0x0, 0x0, 0x0, 0x0, 0x0, 0x0, 0x0, 0x0,
   0x0, 0x0, 0x0, 0x0, 0x0, 0x0, 0x0, 0x0, 0x0, 0x0, 0x0, 0x0, 0x0]

/-- What states 2624 to 2655 do with a token. -/
def moves82 : List Nat :=
  [0x42700250003001020f7c, 0x37005f0003001020f7c, 0x38005f0003001020f7c, 0x39005f0003001020f7c,
   0x100002d0003001020f86, 0x47d00550003001020e7c, 0x28700550003001020e7c, 0x3bd80250003001020f7c,
   0x4f000540003001020c7c, 0x28800540003001020c7c, 0x28880560003001020d7c, 0x28900560003001020d7c,
   0x102805f0003001020f7c, 0x23d80250003001020f7c, 0x37e80250003001020f7c, 0x4f180250003001020f7c,
   0x28b80550003001020e7c, 0x3c100250003001020f7c, 0x28c00540003001020c7c, 0x28d00560003001020d7c,
   0x28d80560003001020d7c, 0x28e00550003001020e7c, 0x48500560003001020d7c, 0x48700560003001020d7c,
   0x48780560003001020d7c, 0x48880560003001020d7c, 0x48980250003001020f7c, 0x106002d0003001020f86,
   0x4f580550003001020e7c, 0x29500550003001020e7c, 0x3fd80250003001020f7c, 0x4f600540003001020c7c]

/-- Where states 2624 to 2655 go after a phrase. -/
def gotos82 : List Nat :=
  [0x0, 0x0, 0x0, 0x0, 0x0, 0x0, 0x0, 0x0, 0x0, 0x0, 0x0, 0x0, 0x0, 0x0, 0x0, 0x0, 0x0, 0x0, 0x0,
   0x0, 0x0, 0x0, 0x0, 0x0, 0x0, 0x0, 0x0, 0x0, 0x0, 0x0, 0x0, 0x0]

/-- What states 2656 to 2687 do with a token. -/
def moves83 : List Nat :=
  [0x29580540003001020c7c, 0x29600560003001020d7c, 0x29680560003001020d7c, 0x108805f0003001020f7c,
   0x22080250003001020f7c, 0x3cb00250003001020f7c, 0x29780550003001020e7c, 0x3ff00250003001020f7c,
   0x29800540003001020c7c, 0x29900560003001020d7c, 0x29980560003001020d7c, 0x29a00550003001020e7c,
   0x48e80250003001020f7c, 0x10a002d0003001020f86, 0x40780550003001020e7c, 0x24880550003001020e7c,
   0x3d000250003001020f7c, 0x40800540003001020c7c, 0x24900540003001020c7c, 0x24980560003001020d7c,
   0x24a00560003001020d7c, 0x10c005f0003001020f7c, 0x2a180250003001020f7c, 0x3d280250003001020f7c,
   0x24b00550003001020e7c, 0x3d300250003001020f7c, 0x24b80540003001020c7c, 0x24c80560003001020d7c,
   0x24d00560003001020d7c, 0x24d80550003001020e7c, 0x49200250003001020f7c, 0x10d802d0003001020f86]

/-- Where states 2656 to 2687 go after a phrase. -/
def gotos83 : List Nat :=
  [0x0, 0x0, 0x0, 0x0, 0x0, 0x0, 0x0, 0x0, 0x0, 0x0, 0x0, 0x0, 0x0, 0x0, 0x0, 0x0, 0x0, 0x0, 0x0,
   0x0, 0x0, 0x0, 0x0, 0x0, 0x0, 0x0, 0x0, 0x0, 0x0, 0x0, 0x0, 0x0]

/-- What states 2688 to 2719 do with a token. -/
def moves84 : List Nat :=
  [0x31780550003001020e7c, 0x25900550003001020e7c, 0x31800540003001020c7c, 0x25980540003001020c7c,
   0x25a00560003001020d7c, 0x25a80560003001020d7c, 0x10f805f0003001020f7c, 0x25b00250003001020f7c,
   0x3d780250003001020f7c, 0x25c00550003001020e7c, 0x25c80540003001020c7c, 0x25d80560003001020d7c,
   0x25e00560003001020d7c, 0x25e80550003001020e7c, 0x111002d0003001020f86, 0x26800550003001020e7c,
   0x26980540003001020c7c, 0x26a00560003001020d7c, 0x26a80560003001020d7c, 0x113005f0003001020f7c,
   0x1fb00250003001020f7c, 0x26b80550003001020e7c, 0x26c00540003001020c7c, 0x26d00560003001020d7c,
   0x26d80560003001020d7c, 0x26e00550003001020e7c, 0x114802d0003001020f86, 0x2ad00550003001020e7c,
   0x2ad80540003001020c7c, 0x2ae00560003001020d7c, 0x2ae80560003001020d7c, 0x116805f0003001020f7c]

/-- Where states 2688 to 2719 go after a phrase. -/
def gotos84 : List Nat :=
  [0x0, 0x0, 0x0, 0x0, 0x0, 0x0, 0x0, 0x0, 0x0, 0x0, 0x0, 0x0, 0x0, 0x0, 0x0, 0x0, 0x0, 0x0, 0x0,
   0x0, 0x0, 0x0, 0x0, 0x0, 0x0, 0x0, 0x0, 0x0, 0x0, 0x0, 0x0, 0x0]

/-- What states 2720 to 2751 do with a token. -/
def moves85 : List Nat :=
  [0x27180250003001020f7c, 0x2af80550003001020e7c, 0x2b000540003001020c7c, 0x2b100560003001020d7c,
   0x2b180560003001020d7c, 0x2b200550003001020e7c, 0x118002d0003001020f86, 0x2c700550003001020e7c,
   0x2c780540003001020c7c, 0x2c800560003001020d7c, 0x2c880560003001020d7c, 0x11a005f0003001020f7c,
   0x2b580250003001020f7c, 0x2c980550003001020e7c, 0x2ca00540003001020c7c, 0x2cb00560003001020d7c,
   0x2cb80560003001020d7c, 0x2cc00550003001020e7c, 0x2cf80250003001020f7c, 0x2d580250003001020f7c,
   0x3a805f0003001020f7c, 0x3b805f0003001020f7c, 0x3d005f0003001020f7c, 0xd7807f0003001020f7c,
   0x3e005f0003001020f7c, 0x3f005f0003001020f7c, 0x40005f0003001020f7c, 0xd8007f0003001020f7c,
   0x40805f0003001020f7c, 0x41005f0003001020f7c, 0xd9005f0003001020f7c, 0xda007f0003001020f7c]

/-- Where states 2720 to 2751 go after a phrase. -/
def gotos85 : List Nat :=
  [0x0, 0x0, 0x0, 0x0, 0x0, 0x0, 0x0, 0x0, 0x0, 0x0, 0x0, 0x0, 0x0, 0x0, 0x0, 0x0, 0x0, 0x0, 0x0,
   0x0, 0x0, 0x0, 0x0, 0x0, 0x0, 0x0, 0x0, 0x0, 0x0, 0x0, 0x0, 0x0]

/-- What states 2752 to 2762 do with a token. -/
def moves86 : List Nat :=
  [0xda807f0003001020f7c, 0xdb805f0003001020f7c, 0x44005f0003001020f7c, 0x41380250003001020f7c,
   0x45400250003001020f7c, 0x45480250003001020f7c, 0xea007f0003001020f7c, 0x56280190003001020f7c,
   0x1a180150003001020f7c, 0xea807f0003001020f7c, 0x1a280150003001020f7c]

/-- Where states 2752 to 2762 go after a phrase. -/
def gotos86 : List Nat :=
  [0x0, 0x0, 0x0, 0x0, 0x0, 0x0, 0x0, 0x0, 0x0, 0x0, 0x0]

end CellScript.Python.Grammar
