/-! Why a file cannot be read or written. -/
namespace LogShift

inductive FileFault where
  | notFound
  | notDirectory
  | isDirectory
  | nameTooLong
  /-- No name holds the character zero. -/
  | zeroInName
  /-- A text file whose bytes are no text. -/
  | notText
  | notGzip
  /-- A name or comment in a gzip header that is too long. -/
  | longGzipField
  | endOfFile
  /-- Compressed data that ends too early. -/
  | incompleteDeflate
  | corruptDeflate
  | wrongChecksum
  /-- Any other answer of the system. -/
  | other (text : String)
deriving DecidableEq, Repr

def FileFault.message : FileFault → String
  | notFound => "No such file or directory (os error 2)"
  | notDirectory => "Not a directory (os error 20)"
  | isDirectory => "Is a directory (os error 21)"
  | nameTooLong => "File name too long (os error 36)"
  | zeroInName => "file name contained an unexpected NUL byte"
  | notText => "stream did not contain valid UTF-8"
  | notGzip => "invalid gzip header"
  | longGzipField => "gzip header field too long"
  | endOfFile => "unexpected end of file"
  | incompleteDeflate => "incomplete deflate stream"
  | corruptDeflate => "corrupt deflate stream"
  | wrongChecksum => "corrupt gzip stream does not have a matching checksum"
  | other text => text

end LogShift
