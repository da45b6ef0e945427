import Chip8.Picture.File

/-! Bytes of picture files, and a library of the formats in which pixels are not compressed. -/
namespace Chip8

namespace Bytes

def bigEndian (width n : Nat) : ByteArray :=
  ⟨.ofFn fun i : Fin width => UInt8.ofNat (n >>> (8 * (width - 1 - i)))⟩

def littleEndian (width n : Nat) : ByteArray :=
  ⟨.ofFn fun i : Fin width => UInt8.ofNat (n >>> (8 * i.val))⟩

/-- One bit of the cyclic redundancy check, lowest bit first. -/
def crcBit (c : UInt32) (_ : Nat) : UInt32 :=
  if c &&& 1 = 1 then (c >>> 1) ^^^ 0xEDB88320 else c >>> 1

def crc32 (bytes : ByteArray) : UInt32 :=
  bytes.foldl (fun c b => (List.range 8).foldl crcBit (c ^^^ b.toUInt32)) 0xFFFFFFFF ^^^ 0xFFFFFFFF

/-- Two sums modulo the largest prime below 2^16. -/
def adler32 (bytes : ByteArray) : Nat :=
  let (a, b) := bytes.foldl (fun (a, b) x =>
    let a := (a + x.toNat) % 65521
    (a, (b + a) % 65521)) (1, 0)
  b * 65536 + a

end Bytes

namespace Picture

open Bytes

def redFirst (c : Color) : List UInt8 := [c.red, c.green, c.blue]

def blueFirst (c : Color) : List UInt8 := [c.blue, c.green, c.red]

/-- Pixels of a row, after and before some other bytes. -/
def rowBytes (pixel : Color → List UInt8) (before after : List UInt8) (row : Array Color) :
    ByteArray :=
  let start := before.foldl ByteArray.push .empty
  let pixels := row.foldl (fun out c => (pixel c).foldl ByteArray.push out) start
  after.foldl ByteArray.push pixels

def join (parts : Array ByteArray) : ByteArray := parts.foldl (· ++ ·) .empty

def toPpm (p : Picture) : ByteArray :=
  let header := s!"P6\n{p.width} {p.height}\n255\n"
  header.toUTF8 ++ join (p.rows.map (rowBytes redFirst [] []))

/-- Rows from bottom to top, each filled up to a multiple of four bytes. -/
def toBmp (p : Picture) : ByteArray :=
  let fill := List.replicate ((4 - p.width * 3 % 4) % 4) 0
  let pixels := join (p.rows.reverse.map (rowBytes blueFirst [] fill))
  let fileHeader :=
    "BM".toUTF8 ++ littleEndian 4 (54 + pixels.size) ++ littleEndian 4 0 ++ littleEndian 4 54
  let imageHeader := littleEndian 4 40 ++ littleEndian 4 p.width ++ littleEndian 4 p.height
    ++ littleEndian 2 1 ++ littleEndian 2 24 ++ littleEndian 4 0 ++ littleEndian 4 pixels.size
    ++ littleEndian 8 0 ++ littleEndian 8 0
  fileHeader ++ imageHeader ++ pixels

def pngChunk (kind : String) (content : ByteArray) : ByteArray :=
  let body := kind.toUTF8 ++ content
  bigEndian 4 content.size ++ body ++ bigEndian 4 (crc32 body).toNat

/-- Longest block of stored bytes. -/
def storedBlockSize : Nat := 65535

/-- Blocks of stored bytes from a position on; the last one is marked. -/
def storedBlocks (bytes : ByteArray) (start : Nat) : Nat → ByteArray
  | 0 => .empty
  | left + 1 =>
      let block := bytes.extract start (start + storedBlockSize)
      let mark := if left = 0 then 1 else 0
      littleEndian 1 mark ++ littleEndian 2 block.size
        ++ littleEndian 2 (storedBlockSize - block.size) ++ block
        ++ storedBlocks bytes (start + storedBlockSize) left

def stored (bytes : ByteArray) : ByteArray :=
  bigEndian 2 0x7801 ++ storedBlocks bytes 0 (bytes.size / storedBlockSize + 1)
    ++ bigEndian 4 (adler32 bytes)

def toPng (p : Picture) : ByteArray :=
  let header := bigEndian 4 p.width ++ bigEndian 4 p.height ++ bigEndian 5 0x0802000000
  let pixels := join (p.rows.map (rowBytes redFirst [0] []))
  bigEndian 8 0x89504E470D0A1A0A ++ pngChunk "IHDR" header ++ pngChunk "IDAT" (stored pixels)
    ++ pngChunk "IEND" .empty

end Picture

namespace ImageLibrary

def plainFormats : List (String × String) :=
  [(".png", "PNG"), (".apng", "PNG"), (".bmp", "BMP"), (".dib", "BMP"), (".ppm", "PPM"),
   (".pnm", "PPM"), (".pgm", "PPM"), (".pbm", "PPM"), (".pfm", "PPM")]

/-- Pictures in the formats that need no compression. -/
def plain : ImageLibrary where
  format? ext := plainFormats.lookup ext
  encode format p :=
    match format with
    | "PNG" => .ok p.toPng
    | "BMP" => .ok p.toBmp
    | "PPM" => .ok p.toPpm
    | other => .error ("cannot write " ++ other)

end ImageLibrary

end Chip8
