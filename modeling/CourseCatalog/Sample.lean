/-!
# The sample dataset

The dataset that is used when no other is given, as JSON text.
-/

namespace CourseCatalog.Sample

/-- The lines of the text. -/
def lines : List String :=
  ["\x7b",
   "    \"colleges\": [",
   "        \x7b",
   "            \"name\": \"Computing & Informatics\",",
   "            \"majors\": [",
   "                \x7b",
   "                    \"name\": \"Computer Science\",",
   "                    \"courses\": [",
   "                        \x7b",
   "                            \"codeName\": \"CS-164\",",
   "                            \"properName\": \"Introduction to Computer Science\",",
   "                            \"credits\": 3,",
   "                            \"prerequisites\": []",
   "                        \x7d,",
   "                        \x7b",
   "                            \"codeName\": \"CS-171\",",
   "                            \"properName\": \"Computer Programming I\",",
   "                            \"credits\": 3,",
   "                            \"prerequisites\": []",
   "                        \x7d,",
   "                        \x7b",
   "                            \"codeName\": \"CS-172\",",
   "                            \"properName\": \"Computer Programming II\",",
   "                            \"credits\": 3,",
   "                            \"prerequisites\": [",
   "                                \x7b \"codeName\": \"CS-171\", \"minimumGrade\": \"C-\" \x7d,",
   "                                \x7b",
   "                                    \"one of\": [",
   "                                        \x7b \"codeName\": \"MATH-101\", \"minimumGrade\": \"D\" \x7d,",
   "                                        \x7b \"codeName\": \"MATH-102\", \"minimumGrade\": \"D\" \x7d",
   "                                    ]",
   "                                \x7d",
   "                            ]",
   "                        \x7d,",
   "                        \x7b",
   "                            \"codeName\": \"CS-260\",",
   "                            \"properName\": \"Data Structures\",",
   "                            \"credits\": 4,",
   "                            \"prerequisites\": [",
   "                                \x7b \"codeName\": \"CS-172\", \"minimumGrade\": \"C-\" \x7d,",
   "                                \x7b",
   "                                    \"one of\": [",
   "                                        \x7b \"codeName\": \"MATH-121\", \"minimumGrade\": \"C-\" \x7d,",
   "                                        \x7b",
   "                                            \"one of\": [",
   "                                                \x7b \"codeName\": \"MATH-122\", \"minimumGrade\": \"D\" \x7d,",
   "                                                \x7b \"codeName\": \"MATH-221\", \"minimumGrade\": \"Any\" \x7d",
   "                                            ]",
   "                                        \x7d",
   "                                    ]",
   "                                \x7d",
   "                            ]",
   "                        \x7d,",
   "                        \x7b",
   "                            \"codeName\": \"CS-265\",",
   "                            \"properName\": \"Advanced Programming Tools and Techniques\",",
   "                            \"credits\": 3,",
   "                            \"prerequisites\": [",
   "                                \x7b \"codeName\": \"CS-172\", \"minimumGrade\": \"D\" \x7d",
   "                            ]",
   "                        \x7d,",
   "                        \x7b",
   "                            \"codeName\": \"CS-273\",",
   "                            \"properName\": \"Computer Programming III\",",
   "                            \"credits\": 3,",
   "                            \"prerequisites\": [",
   "                                \x7b \"codeName\": \"CS-172\", \"minimumGrade\": \"C-\" \x7d",
   "                            ]",
   "                        \x7d,",
   "                        \x7b",
   "                            \"codeName\": \"CS-360\",",
   "                            \"properName\": \"Programming Language Concepts\",",
   "                            \"credits\": 3,",
   "                            \"prerequisites\": [",
   "                                \x7b \"codeName\": \"CS-260\", \"minimumGrade\": \"C-\" \x7d,",
   "                                \x7b \"codeName\": \"CS-265\", \"minimumGrade\": \"D\" \x7d",
   "                            ]",
   "                        \x7d",
   "                    ]",
   "                \x7d,",
   "                \x7b",
   "                    \"name\": \"Software Engineering\",",
   "                    \"courses\": [",
   "                        \x7b",
   "                            \"codeName\": \"SE-181\",",
   "                            \"properName\": \"Introduction to Software Engineering and Development\",",
   "                            \"credits\": 3,",
   "                            \"prerequisites\": [",
   "                                \x7b \"codeName\": \"CS-164\", \"minimumGrade\": \"Any\" \x7d",
   "                            ]",
   "                        \x7d,",
   "                        \x7b",
   "                            \"codeName\": \"SE-201\",",
   "                            \"properName\": \"Introduction to Software Engineering and Development II\",",
   "                            \"credits\": 3,",
   "                            \"prerequisites\": [",
   "                                \x7b \"codeName\": \"SE-181\", \"minimumGrade\": \"C\" \x7d,",
   "                                \x7b \"codeName\": \"CS-172\", \"minimumGrade\": \"C\" \x7d",
   "                            ]",
   "                        \x7d",
   "                    ]",
   "                \x7d",
   "            ],",
   "            \"faculty\": [",
   "                \x7b",
   "                    \"name\": \"Jordan Reyes\",",
   "                    \"titles\": [\"Associate Professor\", \"Director of Undergraduate Studies\"],",
   "                    \"email\": \"jreyes@example.edu\",",
   "                    \"interests\": \"Programming languages; compilers\"",
   "                \x7d,",
   "                \x7b",
   "                    \"name\": \"Priya Natarajan\",",
   "                    \"titles\": [\"Teaching Professor\"],",
   "                    \"email\": \"pnatarajan@example.edu\"",
   "                \x7d",
   "            ]",
   "        \x7d,",
   "        \x7b",
   "            \"name\": \"Arts and Sciences\",",
   "            \"majors\": [",
   "                \x7b",
   "                    \"name\": \"Mathematics\",",
   "                    \"courses\": [",
   "                        \x7b",
   "                            \"codeName\": \"MATH-101\",",
   "                            \"properName\": \"Introduction to Analysis I\",",
   "                            \"credits\": 4,",
   "                            \"prerequisites\": []",
   "                        \x7d,",
   "                        \x7b",
   "                            \"codeName\": \"MATH-102\",",
   "                            \"properName\": \"Introduction to Analysis II\",",
   "                            \"credits\": 4,",
   "                            \"prerequisites\": [",
   "                                \x7b \"codeName\": \"MATH-101\", \"minimumGrade\": \"D\" \x7d",
   "                            ]",
   "                        \x7d,",
   "                        \x7b",
   "                            \"codeName\": \"MATH-121\",",
   "                            \"properName\": \"Calculus I\",",
   "                            \"credits\": 4,",
   "                            \"prerequisites\": [",
   "                                \x7b",
   "                                    \"one of\": [",
   "                                        \x7b \"codeName\": \"MATH-101\", \"minimumGrade\": \"C-\" \x7d,",
   "                                        \x7b \"codeName\": \"MATH-102\", \"minimumGrade\": \"C-\" \x7d",
   "                                    ]",
   "                                \x7d",
   "                            ]",
   "                        \x7d,",
   "                        \x7b",
   "                            \"codeName\": \"MATH-122\",",
   "                            \"properName\": \"Calculus II\",",
   "                            \"credits\": 4,",
   "                            \"prerequisites\": [",
   "                                \x7b \"codeName\": \"MATH-121\", \"minimumGrade\": \"C-\" \x7d",
   "                            ]",
   "                        \x7d,",
   "                        \x7b",
   "                            \"codeName\": \"MATH-221\",",
   "                            \"properName\": \"Discrete Mathematics\",",
   "                            \"credits\": 3,",
   "                            \"prerequisites\": [",
   "                                \x7b \"codeName\": \"MATH-121\", \"minimumGrade\": \"D\" \x7d",
   "                            ]",
   "                        \x7d",
   "                    ]",
   "                \x7d,",
   "                \x7b",
   "                    \"name\": \"Physics\",",
   "                    \"courses\": [",
   "                        \x7b",
   "                            \"codeName\": \"PHYS-101\",",
   "                            \"properName\": \"Fundamentals of Physics I\",",
   "                            \"credits\": 4,",
   "                            \"prerequisites\": [",
   "                                \x7b \"codeName\": \"MATH-121\", \"minimumGrade\": \"D\" \x7d",
   "                            ]",
   "                        \x7d,",
   "                        \x7b",
   "                            \"codeName\": \"PHYS-102\",",
   "                            \"properName\": \"Fundamentals of Physics II\",",
   "                            \"credits\": 4,",
   "                            \"prerequisites\": [",
   "                                \x7b \"codeName\": \"PHYS-101\", \"minimumGrade\": \"D\" \x7d,",
   "                                \x7b \"codeName\": \"MATH-122\", \"minimumGrade\": \"D\" \x7d",
   "                            ]",
   "                        \x7d",
   "                    ]",
   "                \x7d",
   "            ],",
   "            \"faculty\": [",
   "                \x7b",
   "                    \"name\": \"Morgan Ellis\",",
   "                    \"titles\": [\"Professor\", \"Department Head\"],",
   "                    \"email\": \"mellis@example.edu\",",
   "                    \"interests\": \"Harmonic analysis\"",
   "                \x7d",
   "            ]",
   "        \x7d,",
   "        \x7b",
   "            \"name\": \"Engineering\",",
   "            \"majors\": [",
   "                \x7b",
   "                    \"name\": \"Electrical Engineering\",",
   "                    \"courses\": [",
   "                        \x7b",
   "                            \"codeName\": \"ECE-200\",",
   "                            \"properName\": \"Digital Logic Design\",",
   "                            \"credits\": 3,",
   "                            \"prerequisites\": [",
   "                                \x7b \"codeName\": \"PHYS-102\", \"minimumGrade\": \"D\" \x7d",
   "                            ]",
   "                        \x7d,",
   "                        \x7b",
   "                            \"codeName\": \"ECE-201\",",
   "                            \"properName\": \"Foundations of Electric Circuits\",",
   "                            \"credits\": 4,",
   "                            \"prerequisites\": [",
   "                                \x7b \"codeName\": \"ECE-200\", \"minimumGrade\": \"D\" \x7d,",
   "                                \x7b \"codeName\": \"CS-171\", \"minimumGrade\": \"D\" \x7d",
   "                            ]",
   "                        \x7d,",
   "                        \x7b",
   "                            \"codeName\": \"ECE-301\",",
   "                            \"properName\": \"Signals and Systems\",",
   "                            \"credits\": 4,",
   "                            \"prerequisites\": [",
   "                                \x7b \"codeName\": \"ECE-201\", \"minimumGrade\": \"C\" \x7d,",
   "                                \x7b \"codeName\": \"CS-172\", \"minimumGrade\": \"C\" \x7d",
   "                            ]",
   "                        \x7d",
   "                    ]",
   "                \x7d",
   "            ],",
   "            \"faculty\": [",
   "                \x7b",
   "                    \"name\": \"Sam Okafor\",",
   "                    \"title\": \"Assistant Professor\",",
   "                    \"email\": \"sokafor@example.edu\",",
   "                    \"phone\": \"215-555-0142\"",
   "                \x7d",
   "            ]",
   "        \x7d",
   "    ],",
   "    \"organizations\": [",
   "        \x7b",
   "            \"name\": \"Chess Club\",",
   "            \"description\": \"Weekly casual and rated games for players of every level.\"",
   "        \x7d,",
   "        \x7b",
   "            \"name\": \"Robotics Club\",",
   "            \"description\": \"Designs and builds robots for intercollegiate competitions.\"",
   "        \x7d,",
   "        \x7b",
   "            \"name\": \"Women in Computing\",",
   "            \"description\": \"Mentoring, workshops and community for women in computing majors.\"",
   "        \x7d,",
   "        \x7b",
   "            \"name\": \"Outdoors Club\",",
   "            \"description\": \"Hiking, climbing and camping trips on weekends.\"",
   "        \x7d",
   "    ]",
   "\x7d"]

/-- The text. Every line ends. -/
def text : String :=
  String.join (lines.map (· ++ "\n"))

end CourseCatalog.Sample
