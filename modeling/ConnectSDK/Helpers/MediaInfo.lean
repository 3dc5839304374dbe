/-! # Media information

What the user of the SDK tells of a media file. Its icon is the first of its images.
-/

namespace ConnectSDK

structure SubtitleInfo where
  url : String
  mimeType : Option String := none
  language : Option String := none
  label : Option String := none

structure MediaInfo where
  url : Option String := none
  iconURL : Option String := none
  title : Option String := none
  description : Option String := none
  mimeType : Option String := none
  subtitleInfo : Option SubtitleInfo := none

end ConnectSDK
