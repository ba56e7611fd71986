import SchemaRegistry.Text.CodeSet

/-! In which direction characters are written, how they join, and which are marks.  Characters that
no name of a domain can hold are left out. -/

namespace SchemaRegistry.Domain

def directionCodes : Text.CodeMap := .ofRuns [
  "9:5 5:6 e:5 5:6 f:5 a:3 27:5 1a:0 64:5 18:0 1:5 1c1:0 2:5 7:0 e:5 2:0 1c:5 1:0 11:5 71:4 4:0",
  "2:5 7f:0 2:5 8b:0 8:4 ff:0 7:5 2d:4 1:1 1:4 1:1 2:4 1:1 2:4 1:1 9:4 36:1 2:5 1:1 2:5 1:1 1:5",
  "1:1 2:5 b:4 30:1 15:4 a:2 1:5 2:2 3:1 1:4 65:1 8:4 1:5 6:4 2:1 2:4 1:5 4:4 2:1 a:3 17:1 1:4",
  "1e:1 1d:4 59:1 b:4 3a:1 9:4 2:1 4:5 3:1 1:4 18:1 4:4 1:1 9:4 1:1 3:4 1:1 7:4 29:1 5:4 39:1 9:4",
  "2a:1 39:4 37:0 1:4 1:0 1:4 4:0 8:4 4:0 1:4 3:0 f:4 2:0 2:4 1d:0 1:4 3a:0 1:4 4:0 6:4 6:0 1:4",
  "14:0 4:4 c:0 2:5 7:0 1:5 2:0 5:4 39:0 2:4 3:0 1b:4 14:0 2:4 3:0 1:4 b:0 2:4 39:0 1:4 4:0 8:4",
  "4:0 3:4 12:0 4:4 b:0 8:5 1:0 8:4 3a:0 1:4 2:0 1:4 1:0 6:4 6:0 a:4 b:0 4:4 1c:0 1:4 3d:0 1:4",
  "c:0 3:4 23:0 d:5 1:4 3:0 1:4 37:0 1:4 1:0 3:4 5:0 12:4 a:0 4:4 12:0 7:5 2:0 1:4 3a:0 1:4 f:0",
  "9:4 d:0 4:4 1a:0 2:4 39:0 2:4 4:0 5:4 7:0 1:4 14:0 4:4 1b:0 1:4 48:0 5:4 3:0 6:4 59:0 1:4 2:0",
  "b:4 1:5 7:0 8:4 62:0 1:4 2:0 9:4 b:0 8:4 48:0 2:4 1b:0 1:4 1:0 1:4 1:0 1:4 4:5 33:0 e:4 1:0",
  "5:4 1:0 2:4 5:0 31:4 8:0 1:4 66:0 4:4 1:0 6:4 1:0 2:4 2:0 2:4 19:0 2:4 4:0 3:4 10:0 4:4 d:0",
  "1:4 2:0 2:4 6:0 1:4 f:0 1:4 2bf:0 3:4 30:0 10:5 60:0 1:5 29a:0 5:5 72:0 3:4 1d:0 2:4 1e:0 e:4",
  "12:0 e:4 37:0 7:4 8:0 1:4 2:0 b:4 7:0 1:5 1:0 3:4 10:0 20:5 75:0 2:4 22:0 1:4 76:0 3:4 4:0 2:4",
  "9:0 1:4 6:0 7:4 6:5 98:0 22:5 17:0 2:4 2:0 3:4 38:0 1:4 1:0 9:4 1:0 1:4 2:0 8:4 6:0 d:4 30:0",
  "54:4 30:0 1:4 1:0 5:4 1:0 1:4 5:0 1:4 28:0 9:4 c:0 2:4 20:0 4:4 2:0 2:4 1:0 3:4 38:0 1:4 1:0",
  "2:4 3:0 1:4 1:0 3:4 3a:0 8:4 2:0 5:4 95:0 3:4 1:0 d:4 1:0 7:4 4:0 1:4 6:0 1:4 3:0 2:4 c6:0",
  "41:4 20b:0 c4:5 34:4 4a:5 3c:0 1ac:5 45:0 1a:5 1:0 316:5 1:0 153:5 100:0 330:5 b5:0 7:5 3:0",
  "4:4 6:0 7:5 7f:0 1:4 60:0 20:4 205:5 3:0 19:5 9:0 4:4 2:0 1:5 6:0 4:5 2:0 4:5 58:0 4:4 3:0 1:5",
  "5a:0 1:5 c4:0 30:5 1bd0:0 40:5 5690:0 40:5 13d:0 3:5 5f:0 4:4 1:5 a:4 3:5 1d:0 2:4 50:0 2:4",
  "e:0 23:5 65:0 1:5 79:0 1:4 3:0 1:4 4:0 1:4 19:0 2:4 1:0 4:5 4:4 8:0 8:5 34:0 c:5 44:0 a:4 12:0",
  "12:4 d:0 1:4 26:0 8:4 19:0 b:4 2e:0 3:4 30:0 1:4 2:0 4:4 2:0 2:4 27:0 1:4 43:0 6:4 2:0 2:4 2:0",
  "b:4 3:0 1:4 8:0 1:4 2f:0 1:4 33:0 1:4 1:0 3:4 2:0 2:4 5:0 2:4 1:0 1:4 2a:0 2:4 8:0 b:4 69:0",
  "56:5 25:0 1:4 2:0 1:4 4:0 3:4 4f2e:0 94:4 11:1 25d:5 25:4 2e:5 18d:1 101:0 1:5 3e:0 4d:5 3:0",
  "40:5 2d:0 83:4 60:0 1:4 1f:3 76:0 a:4 480:0 11f:1 1:5 e1:1 f:4 28:1 8:4 a5:1 6:4 4e:1 7:5",
  "1e4:1 c:4 10:2 29:1 5:4 1:5 f1:1 20:2 2b:1 2:4 23:1 2a:5 6:4 46:1 b:4 31:1 4:4 7a:1 1:0 1:4",
  "36:0 f:4 b:0 14:5 a:0 1:4 2:0 2:4 a:0 3:4 31:0 4:4 2:0 2:4 7:0 e:4 30:0 3:4 24:0 5:4 1:0 9:4",
  "3d:0 1:4 c:0 2:4 34:0 9:4 a:0 4:4 2:0 1:4 5f:0 3:4 2:0 1:4 1:0 2:4 6:0 1:4 2:0 3f:4 5f:0 1:4",
  "3:0 d:4 10:0 2:4 39:0 2:4 3:0 1:4 25:0 1a:4 3b:0 7:4 c:0 1:4 1:0 1:4 1:0 1:4 e:0 1f:4 38:0 8:4",
  "2:0 3:4 1:0 1:4 17:0 1:4 54:0 6:4 1:0 1:4 4:0 2:4 1:0 2:4 ee:0 6:4 4:0 2:4 1:0 2:4 1b:0 24:4",
  "33:0 8:4 2:0 1:4 1:0 2:4 1f:0 20:5 2b:0 1:4 1:0 1:4 2:0 6:4 1:0 1:4 65:0 3:4 2:0 4:4 1:0 9:4",
  "ff:0 9:4 1:0 2:4 100:0 2:4 1:0 1:4 4:0 1:4 90:0 8:4 4:0 1:4 20:0 6:4 2:0 2:4 28:0 6:4 2:0 4:4",
  "8:0 9:4 1:0 6:4 2:0 3:4 2e:0 d:4 1:0 2:4 c6:0 1:4 1:0 3:4 1:0 1:4 c9:0 e:4 54:0 17:4 1:0 7:4",
  "1:0 2:4 1:0 4b:4 31:0 15:4 1:0 9:4 40:0 3:4 2:0 1:4 1:0 1:4 15b:0 2:4 b:0 2:4 34:0 8:4 2:0 1:4",
  "1:0 1:4 17:0 56:4 25:0 2a:5 1441:0 1:4 6:0 19:4 2cbe:0 c:4 3:0 3:4 9c0:0 5:4 3b:0 7:4 418:0",
  "1:4 3f:0 4:4 4f:0 1:5 1:0 c:4 4cad:0 2:4 f61:0 300:5 50:4 217:0 3:4 11:0 8:4 2:0 7:4 1e:0 4:4",
  "3b:0 59:5 3:4 7b:5 40:0 60:5 6a0:0 37:4 4:0 32:4 8:0 1:4 e:0 1:4 16:0 465:4 100:0 100:4 30:0",
  "7:4 177:0 12:4 2c:0 4:4 f:0 1d1:5 1c:0 4:4 fe:0 2:4 f3:0 1:4 2:0 1:4 7:0 2:4 5:0 9:4 102:0",
  "d0:1 52:4 22:1 7:4 5a5:1 260:5 1d:0 3:5 3d:0 39:5 7a:0 da0:5 f0000:0"]

def joiningCodes : Text.CodeMap := .ofRuns [
  "300:0 71:4 112:0 8:4 106:0 2d:4 1:0 1:4 1:0 2:4 1:0 2:4 1:0 9:4 40:0 b:4 5:0 1:3 1:0 4:2 1:3",
  "1:2 1:3 1:2 5:3 4:2 d:3 1:0 7:3 1:2 2:3 15:4 e:0 2:3 1:4 3:2 5:0 f:3 12:2 26:3 1:2 2:3 9:2 1:3",
  "1:2 1:3 1:2 2:3 2:2 1:0 1:2 8:4 1:0 6:4 2:0 2:4 1:0 4:4 2:2 a:0 3:3 2:0 1:3 10:0 1:2 1:4 3:3",
  "5:2 4:3 1:2 9:3 1:2 1:3 1:2 1:3 1:2 2:3 1:2 1d:4 1:2 b:3 3:2 f:3 2:2 4:3 1:2 1:3 2:2 3:3 2:2",
  "6:3 26:0 b:4 19:0 21:3 9:4 9:0 1:4 18:0 4:4 1:0 9:4 1:0 3:4 1:0 7:4 10:0 1:2 5:3 2:2 1:3 1:2",
  "a:3 1:2 1:3 3:2 5:4 2:0 1:3 1:0 4:3 1:0 1:2 1:3 1a:2 3:0 1:3 2:0 5:3 1:2 8:3 9:4 a:3 3:2 1:0",
  "1:2 2:3 2:2 6:3 1:2 f:3 1:0 39:4 37:0 1:4 1:0 1:4 4:0 8:4 4:0 1:4 3:0 f:4 2:0 2:4 1d:0 1:4",
  "3a:0 1:4 4:0 6:4 6:0 1:4 14:0 4:4 18:0 5:4 39:0 2:4 3:0 1b:4 14:0 2:4 3:0 1:4 b:0 2:4 39:0 1:4",
  "4:0 8:4 4:0 3:4 12:0 4:4 14:0 8:4 3a:0 1:4 2:0 1:4 1:0 6:4 6:0 a:4 b:0 4:4 1c:0 1:4 3d:0 1:4",
  "c:0 3:4 30:0 1:4 3:0 1:4 37:0 1:4 1:0 3:4 5:0 12:4 a:0 4:4 1b:0 1:4 3a:0 1:4 2:0 1:4 6:0 1:4",
  "5:0 9:4 d:0 4:4 1a:0 2:4 39:0 2:4 4:0 5:4 7:0 1:4 14:0 4:4 1b:0 1:4 48:0 5:4 3:0 6:4 59:0 1:4",
  "2:0 b:4 8:0 8:4 62:0 1:4 2:0 9:4 b:0 8:4 48:0 2:4 1b:0 1:4 1:0 1:4 1:0 1:4 37:0 e:4 1:0 5:4",
  "1:0 2:4 5:0 31:4 8:0 1:4 66:0 4:4 1:0 6:4 1:0 2:4 2:0 2:4 19:0 2:4 4:0 3:4 10:0 4:4 d:0 1:4",
  "2:0 2:4 6:0 1:4 f:0 1:4 2bf:0 3:4 3b2:0 3:4 1d:0 2:4 1e:0 e:4 12:0 e:4 37:0 7:4 8:0 1:4 2:0",
  "b:4 9:0 3:4 27:0 1:3 18:0 60:3 5:0 2:4 22:3 1:4 6:3 70:0 3:4 4:0 2:4 9:0 1:4 6:0 7:4 d7:0 2:4",
  "2:0 3:4 38:0 1:4 1:0 9:4 1:0 1:4 2:0 8:4 6:0 d:4 30:0 54:4 30:0 1:4 1:0 5:4 1:0 1:4 5:0 1:4",
  "28:0 9:4 c:0 2:4 20:0 4:4 2:0 2:4 1:0 3:4 38:0 1:4 1:0 2:4 3:0 1:4 1:0 3:4 3a:0 8:4 2:0 5:4",
  "95:0 3:4 1:0 d:4 1:0 7:4 4:0 1:4 6:0 1:4 3:0 2:4 c6:0 41:4 2cf:0 34:4 beb:0 4:4 8c:0 1:4 60:0",
  "20:4 22a:0 4:4 6b:0 4:4 75d2:0 4:4 1:0 a:4 20:0 2:4 50:0 2:4 110:0 1:4 3:0 1:4 4:0 1:4 19:0",
  "2:4 5:0 4:4 10:0 32:3 1:1 51:0 a:4 12:0 12:4 d:0 1:4 26:0 8:4 19:0 b:4 2e:0 3:4 30:0 1:4 2:0",
  "4:4 2:0 2:4 27:0 1:4 43:0 6:4 2:0 2:4 2:0 b:4 3:0 1:4 8:0 1:4 2f:0 1:4 33:0 1:4 1:0 3:4 2:0",
  "2:4 5:0 2:4 1:0 1:4 2a:0 2:4 8:0 b:4 e4:0 1:4 2:0 1:4 4:0 3:4 4f2e:0 94:4 26e:0 25:4 3b8:0",
  "83:4 60:0 1:4 95:0 a:4 681:0 f:4 28:0 8:4 80:0 5:3 1:2 1:0 1:2 1:0 2:2 2:0 1:1 5:2 4:3 1:1 5:3",
  "1:2 3:3 1:2 2:0 1:2 6:4 4:3 1:2 90:0 1:3 1:2 1:3 3:2 3:3 1:2 2:3 1:2 1:3 2:2 1:3 8:2 10:0 4:2",
  "2:3 151:0 1:1 21:3 1:2 1:3 c:4 39:0 5:4 13d:0 2:4 15:0 1:2 2:3 1:0 a:3 2a:0 6:4 30:0 3:3 1:2",
  "11:3 1:0 b:4 3:3 1:2 1b:0 4:3 2:2 c:3 4:4 2a:0 1:3 1:0 2:3 3:2 1:0 1:3 2:2 2:3 1:2 2:3 1:0 1:3",
  "2:2 1:3 4:0 1:2 1:3 15:1 21:0 1:4 36:0 f:4 29:0 1:4 2:0 2:4 a:0 3:4 31:0 4:4 2:0 2:4 7:0 e:4",
  "30:0 3:4 24:0 5:4 1:0 9:4 3d:0 1:4 c:0 2:4 34:0 9:4 a:0 4:4 2:0 1:4 5f:0 3:4 2:0 1:4 1:0 2:4",
  "6:0 1:4 2:0 3f:4 5f:0 1:4 3:0 d:4 10:0 2:4 39:0 2:4 3:0 1:4 25:0 1a:4 3b:0 7:4 c:0 1:4 1:0 1:4",
  "1:0 1:4 e:0 1f:4 38:0 8:4 2:0 3:4 1:0 1:4 17:0 1:4 54:0 6:4 1:0 1:4 4:0 2:4 1:0 2:4 ee:0 6:4",
  "4:0 2:4 1:0 2:4 1b:0 24:4 33:0 8:4 2:0 1:4 1:0 2:4 6a:0 1:4 1:0 1:4 2:0 6:4 1:0 1:4 65:0 1:4",
  "1:0 1:4 2:0 4:4 1:0 9:4 ff:0 9:4 1:0 2:4 100:0 2:4 1:0 1:4 4:0 1:4 90:0 8:4 4:0 1:4 20:0 a:4",
  "28:0 6:4 2:0 4:4 8:0 9:4 1:0 6:4 2:0 3:4 2e:0 d:4 1:0 2:4 c6:0 1:4 1:0 3:4 1:0 1:4 c9:0 e:4",
  "1:0 1:4 52:0 17:4 1:0 7:4 1:0 2:4 1:0 4b:4 31:0 15:4 1:0 9:4 40:0 3:4 2:0 1:4 1:0 1:4 15b:0",
  "2:4 b:0 2:4 34:0 8:4 2:0 1:4 1:0 1:4 17:0 56:4 1490:0 1:4 6:0 19:4 2cbe:0 c:4 3:0 3:4 9c0:0",
  "5:4 3b:0 7:4 418:0 1:4 3f:0 4:4 51:0 c:4 4cad:0 2:4 1261:0 50:4 217:0 3:4 11:0 8:4 2:0 7:4",
  "1e:0 4:4 94:0 3:4 7bb:0 37:4 4:0 32:4 8:0 1:4 e:0 1:4 16:0 465:4 100:0 100:4 30:0 7:4 177:0",
  "12:4 2c:0 4:4 1fc:0 4:4 fe:0 2:4 f3:0 1:4 2:0 1:4 7:0 2:4 5:0 9:4 1d2:0 52:4 22:3 c:4 f16b0:0"]

def markCodes : Text.CodeSet := .ofRuns [
  "300 71 112 8 106 2d 1 1 1 2 1 2 1 9 40 b 30 15 10 1 65 8 1 6 2 2 1 4 23 1 1e 1d 59 b 3a 9 9 1",
  "18 4 1 9 1 3 1 7 29 5 39 9 2a 3a 36 3 1 12 1 f 2 2 1d 4 37 1 1 10 9 9 2 4 18 7 37 20 14 2 3 1",
  "b 4 37 1 1 12 12 4 14 b 37 1 1 21 3 4 1c 1 3b 12 7 f 1a 5 37 1 1 1a a 4 1b 3 38 1 1 1e 6 4 d",
  "11 37 2 1 10 9 1 a 4 1b 4 45 1c c 2 3d 1 2 b 8 8 62 1 2 9 b 8 48 2 1b 1 1 1 1 1 4 2 31 14 1 2",
  "5 31 8 1 64 14 17 4 4 3 1 3 2 7 3 4 d c 1 1 a 4 2bf 3 3b2 d 13 3 1d e 12 e 36 1e 9 3 a5 2 22 1",
  "76 20 d7 7 37 2b 30 55 2f 11 26 9 c 3 1e d 38 16 28 17 95 3 1 15 4 1 6 1 2 3 c6 41 2cf 34 beb",
  "4 8c 1 60 20 22a 6 69 4 75d2 4 1 a 20 2 50 2 110 1 3 1 4 1 17 5 4 4 50 2 32 1a 12 12 d 1 26 8",
  "19 18 21 4 2f e 24 1 43 17 3 1 8 4 2b 3 32 1 1 3 2 2 5 2 1 1 29 5 5 c e2 8 1 4 4f2e 94 26e 25",
  "3b8 83 60 1 95 a 681 f 28 8 a5 6 239 c 39 5 13d 2 4d 6 46 b 31 4 7a 3 35 f 29 1 2 2 a 4 2d b 7",
  "e 30 3 24 f f 2 2c 1 c 3 30 e 8 4 1 2 5c c 6 1 2 3f 5f 11 10 5 36 2 1 12 7 6 5 1e 38 19 1 1 e",
  "1f 35 12 17 1 51 14 eb 12 1b 24 30 11 6a d 65 13 fc f f5 f 1 1 1 2 8d 10 3 1c 1 a 28 7 1 4 8 9",
  "1 b 2e 10 c6 60 6f 11 52 6e 31 15 1 9 3a e 15b 4 9 2 1 1 30 f 17 56 1490 1 6 19 2cbe 12 9c0 5",
  "3b 7 418 1 1 42 51 e 4cab 2 1261 50 215 5 3 16 2 7 1e 4 94 3 7bb 37 4 32 8 1 e 1 16 465 100",
  "100 30 7 177 12 2c 4 1fc 4 fe 2 f3 1 2 1 7 2 5 9 1d2 52 22 7"]

end SchemaRegistry.Domain
