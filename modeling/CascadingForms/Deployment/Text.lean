import CascadingForms.Text.Split

/-!
# Texts of the built-in menus

Each menu file is kept line by line, as it would stand on disk. Every line ends with a line break.
-/

namespace CascadingForms.Deployment

/-- A text with a line break behind every line. -/
def ofLines (lines : List String) : String := Text.join "\n" (lines ++ [""])

/-- Exercises handed in by students of the portal. -/
def onlineStudentText : String := ofLines [
  "# Portail L1/L2 : dépôt des exercices par les étudiants",
  "name: online-student",
  "role: student",
  "locale: fr",
  "labels:",
  "  submit: Envoyer",
  "  source_files: \"Fichier(s) source(s)\"",
  "  function_name: Nom de la fonction",
  "root:",
  "  key: Course",
  "  prompt: cours",
  "  children:",
  "    - key: AlgoL1",
  "      label: L1 / Algorithmique en C",
  "      prompt: exercice",
  "      path: L1/algo",
  "      submission:",
  "        accept: [\".c\", \".h\"]",
  "        multiple_files: true",
  "      children:",
  "        - key: Exo1",
  "          label: Exercice 1",
  "          prompt: question",
  "          children:",
  "            - key: Q1",
  "              label: hello.c du cours",
  "              path: exo01-1.bad",
  "            - key: Q2",
  "              label: \"hello.c sans #include\"",
  "              path: exo01-2.bad",
  "            - key: Q3",
  "              label: helloname.c du cours",
  "              path: exo01-3.bad",
  "            - key: Q4",
  "              label: helloname.c sans free",
  "              path: exo01-4.bad",
  "        - key: Exo2",
  "          label: Exercice 2",
  "          path: exo02.bad",
  "        - key: Exo3",
  "          label: Exercice 3",
  "          path: exo03.bad",
  "        - key: Exo4",
  "          label: Exercice 4",
  "          path: exo04.bad",
  "        - key: Exo5",
  "          label: Exercice 5",
  "          path: exo05.bad",
  "        - key: Exo6",
  "          label: Exercice 6",
  "          path: exo06.bad",
  "        - key: Exo7",
  "          label: Exercice 7",
  "          path: exo07.bad",
  "        - key: Exo8",
  "          label: Exercice 8",
  "          path: exo08.bad",
  "        - key: Exo9",
  "          label: Exercice 9",
  "          path: exo09.bad",
  "        - key: Exo10",
  "          label: Exercice 10",
  "          path: exo10.bad",
  "        - key: Exo11",
  "          label: Exercice 11",
  "          path: exo11.bad",
  "        - key: Exo12",
  "          label: Exercice 12",
  "          path: exo12.bad",
  "        - key: Exo13",
  "          label: Exercice 13",
  "          prompt: question",
  "          submission:",
  "            function_name: true",
  "          children:",
  "            - key: Q1",
  "              label: Question 1",
  "              path: exo13-1.bad",
  "            - key: Q2",
  "              label: Question 2",
  "              path: exo13-2.bad",
  "            - key: Q3",
  "              label: Question 3",
  "              path: exo13-3.bad",
  "            - key: Q4",
  "              label: Question 4",
  "              path: exo13-4.bad",
  "            - key: Q5",
  "              label: Question 5",
  "              path: exo13-5.bad",
  "    - key: UnixL2",
  "      label: L2 / Programmation Unix",
  "      prompt: exercice",
  "      path: L2/Unix",
  "      children:",
  "        - key: Exo1",
  "          label: Exercice 1",
  "          path: exo01.bad",
  "          submission:",
  "            source_label: Fichier(s) source"]

/-- Hand-ins of a group, fetched by the teachers of the portal. -/
def onlineTeacherText : String := ofLines [
  "# Portail L1/L2 : récupération des rendus d'un groupe par les enseignants",
  "name: online-teacher",
  "role: teacher",
  "locale: fr",
  "labels:",
  "  submit: Envoyer",
  "  source_files: \"Fichier(s) source(s)\"",
  "  function_name: Nom de la fonction",
  "root:",
  "  key: Course",
  "  prompt: cours",
  "  submission:",
  "    files: false",
  "  children:",
  "    - key: AlgoL1",
  "      label: L1 / Algorithmique en C",
  "      prompt: groupe",
  "      submission:",
  "        multiple_exercises: true",
  "        exercises:",
  "          - \x7b key: Exo1, label: Exercice 1 \x7d",
  "          - \x7b key: Exo2, label: Exercice 2 \x7d",
  "          - \x7b key: Exo3, label: Exercice 3 \x7d",
  "          - \x7b key: Exo4, label: Exercice 4 \x7d",
  "          - \x7b key: Exo5, label: Exercice 5 \x7d",
  "          - \x7b key: Exo6, label: Exercice 6 \x7d",
  "          - \x7b key: Exo7, label: Exercice 7 \x7d",
  "          - \x7b key: Exo8, label: Exercice 8 \x7d",
  "          - \x7b key: Exo9, label: Exercice 9 \x7d",
  "          - \x7b key: Exo10, label: Exercice 10 \x7d",
  "          - \x7b key: Exo11, label: Exercice 11 \x7d",
  "          - \x7b key: Exo12, label: Exercice 12 \x7d",
  "          - \x7b key: Exo13, label: Exercice 13 \x7d",
  "      children:",
  "        - \x7b key: L1_DLBI_G0, label: Bio-Info / Groupe 0 \x7d",
  "        - \x7b key: L1_DLBI_G1, label: Bio-Info / Groupe 1 \x7d",
  "        - \x7b key: L1_DLBI_G2, label: Bio-Info / Groupe 2 \x7d",
  "        - \x7b key: L1_DLBI_G3, label: Bio-Info / Groupe 3 \x7d",
  "        - \x7b key: L1_DLM_G1, label: Maths / Groupe 1 \x7d",
  "        - \x7b key: L1_DLM_G2, label: Maths / Groupe 2 \x7d",
  "        - \x7b key: L1_DLM_G3, label: Maths / Groupe 3 \x7d",
  "        - \x7b key: L1_DLME, label: Maths-Eco \x7d",
  "        - \x7b key: L1_DLSDV, label: SdV \x7d",
  "        - \x7b key: L1_info_G1, label: Info / Groupe 1 \x7d",
  "        - \x7b key: L1_info_G2, label: Info / Groupe 2 \x7d",
  "        - \x7b key: L1_info_G3, label: Info / Groupe 3 \x7d",
  "        - \x7b key: L1_info_G4, label: Info / Groupe 4 \x7d",
  "        - \x7b key: L1_info_G5, label: Info / Groupe 5 \x7d",
  "    - key: UnixL2",
  "      label: L2 / Programmation Unix",
  "      prompt: groupe",
  "      children:",
  "        - \x7b key: G1, label: Groupe 1 \x7d",
  "        - \x7b key: G2, label: Groupe 2 \x7d",
  "        - \x7b key: G3, label: Groupe 3 \x7d"]

/-- One course with one exercise. -/
def demoStudentText : String := ofLines [
  "# Démo : un cours, un exercice",
  "name: demo-student",
  "role: student",
  "locale: en",
  "labels:",
  "  submit: Submit",
  "  source_files: Source file(s)",
  "  function_name: Function name",
  "root:",
  "  key: Course",
  "  prompt: course",
  "  children:",
  "    - key: MyCourse",
  "      label: C programming",
  "      prompt: exercise",
  "      path: scripts/cprog",
  "      children:",
  "        - key: Test",
  "          label: factorial",
  "          path: fact.bad",
  "          submission:",
  "            accept: [\".c\", \".h\"]"]

/-- A teacher view with one exercise at a time. -/
def demoTeacherText : String := ofLines [
  "# Démo : vue enseignant, un seul exercice à la fois",
  "name: demo-teacher",
  "role: teacher",
  "locale: en",
  "labels:",
  "  submit: Submit",
  "  source_files: Source file(s)",
  "  function_name: Function name",
  "root:",
  "  key: Course",
  "  prompt: course",
  "  submission:",
  "    files: false",
  "  children:",
  "    - key: AlgoL1",
  "      label: L1 / Algorithmique en C",
  "      prompt: groupe",
  "      submission:",
  "        multiple_exercises: false",
  "        exercises:",
  "          - \x7b key: Test, label: factorial \x7d",
  "          - \x7b key: Exo1, label: Exercise 1 \x7d",
  "          - \x7b key: Exo2, label: Exercise 2 \x7d",
  "          - \x7b key: Exo3, label: Exercise 3 \x7d",
  "          - \x7b key: Exo4, label: Exercise 4 \x7d",
  "          - \x7b key: Exo5, label: Exercise 5 \x7d",
  "          - \x7b key: Exo6, label: Exercise 6 \x7d",
  "          - \x7b key: Exo7, label: Exercise 7 \x7d",
  "          - \x7b key: Exo8, label: Exercise 8 \x7d",
  "          - \x7b key: Exo9, label: Exercise 9 \x7d",
  "          - \x7b key: Exo10, label: Exercise 10 \x7d",
  "          - \x7b key: Exo11, label: Exercise 11 \x7d",
  "          - \x7b key: Exo12, label: Exercise 12 \x7d",
  "          - \x7b key: Exo13, label: Exercise 13 \x7d",
  "      children:",
  "        - \x7b key: L1_DLBI_G0, label: Bio-Info / Groupe 0 \x7d",
  "        - \x7b key: L1_DLM_G1, label: Maths / Groupe 1 \x7d",
  "        - \x7b key: L1_DLM_G2, label: Maths / Groupe 2 \x7d",
  "        - \x7b key: L1_DLM_G3, label: Maths / Groupe 3 \x7d",
  "        - \x7b key: L1_DLME, label: Maths-Eco \x7d",
  "        - \x7b key: L1_DLSDV, label: SdV \x7d",
  "        - \x7b key: L1_info_G1, label: Info / Groupe 1 \x7d",
  "        - \x7b key: L1_info_G2, label: Info / Groupe 2 \x7d",
  "        - \x7b key: L1_info_G3, label: Info / Groupe 3 \x7d",
  "        - \x7b key: L1_info_G4, label: Info / Groupe 4 \x7d",
  "        - \x7b key: L1_info_G5, label: Info / Groupe 5 \x7d",
  "    - key: UnixL2",
  "      label: L2 / Programmation Unix",
  "      prompt: groupe",
  "      children:",
  "        - \x7b key: G1, label: Groupe 1 \x7d",
  "        - \x7b key: G2, label: Groupe 2 \x7d",
  "        - \x7b key: G3, label: Groupe 3 \x7d"]

end CascadingForms.Deployment
